import CInspect.Text.Packed
/-!
The system interface headers for memory mapping, resources, interprocess communication, terminals, users and groups, dynamic loading and the like.

Each entry is the full path of a header and its text, reduced to the
declarations and macros that programs can see, each on the line it
stands on in the header.
-/

namespace CInspect.Includes

/-- The further system interface headers. -/
def systemCallHeaders : List (String × String) := Text.unpackEntries <|
  String.join [
    "/usr/include/aio.h`~5!!#ifndef _AIO_H`#define~'!2\t1``#~'!l <features.h>~+!9sys/typ~0!:bit~'!;/sigevent_t~3!G~(!A-const~;!ltruct_timespec.h>``__BEGIN_DECLS```~&",
    "!H aiocb`@`  in~%!1_fildes;~+!5lio_opcode~,!9reqprio;`  volatile void *aio_buf;`  size_~&!Tnbyt~&%'~'%K~(&J~%!B~(!0;``~*!F~%%p *__next_~(%=int __abs~/!5policy~*",
    "!3error_~(&2__s~'%___return_value;~+)W_USE_FILE_OFFSET64~%!_off~'&?offset;`  char __pad[sizeof (~%!M64_t) - ~-!8_t)];`#else~(!x64~/!z#endif~*%)glibc_reserved[32",
    "];`$;~'+a~*&)LARGEFILE64~-)S64~|)U~|)U~u)U~8(;~A(4~'(]~/(:GNU~,-finit`  @`  ~*'gthread~%'4~*!8num~.!4lock~/!Husedba~.!7debug~1!ruser~/!didle~%/u~%&s~,)J~&&U;`  ",
    "~,&S`enum~%*HAIO_CANCELED,~)2Y~,!9~-!0~'!VNOT~6!Y~+!<~0!3~'!bALLDONE~-!Z~'!7~-!D~&,n~)%|LIO_REA~+%>~(!5~)!,~'!JWRITE~.!K~%!6~*!-~'!MNOP~-!JNOP~)!;~3%NWAIT~/%&AI",
    "T~)!,~)%!~%!0~.%'~)!M~'!B~3/KGNU`extern~&.G~%)Vnit (~%5z ~.+O *_~%!B) __THROW __nonnull ((1))~.,G~92h~(%C~**]ad (~0/+~%!,p~;%;~0!nwrite~U!o~,!pl~%2+stio (~&0*mo",
    "de,`\t\t ~&!!~.%.~&'O_~%!W[__restrict_arr]~+!Y~&!qnent,~129*~*![ __sig)~%0x~2&(2~1&(aio~&1y~2)/~P'o~*2Z~&(hturn~V'v~0%rcancel~('w~&6H,~A%|;~'?<~/!ssuspend~6&l~-",
    "(a],~,(G`\t\t\t~-!W~(>9~/(Ptimeout~&(T~B&Vfsync~(&Uoperation~9&X~<)U~&;6# ~(.zREDIRECT_NTH~,%G~.!= (~(-p,~9)*,~).<64~5&T~?%-~%./~A%.~%!I~7%/~<%0~*.H~%(z  ~0.O\t",
    "~S.M\t~S.K~(![~*%b64)~3.V~?'S~%.h,~?.i~(%;~)!U~0%:~,(l~,=S~4*!turn~;(s`\t\t\t\t~+/X~5%:~A&R~&/H~/(w~?/O~,&d~&!g64);`#  ~,7gTIME_BITS64~A%U~'0,~)%V~T03    ~M07~(",
    "!Y~%&Q~(%Q~%!B~5'r#  ~%/L~|&E~g&E~+%O~9&=~%;T~?&>~%3.~/*;~C35~,%V~%!i~6.>#~&'q#  ~'>i~)<f~*2S~/!B~&<9~+1j~+!D~+;h~,/h~/!i~&:-~+.q~1%P~%9N~,.!~/!F~'9!~,,w~<,u# ~",
    "-!e~(8n~4+C~)+0~7!X~-)V~*)D~.%r~&8=~+(O`#~(!L~'BO~9O3~3BJ64~.1S64~F<b~4BM~X!r~6BP64~27&~0%,~C7%~oBJ~4BI64~40(~-&w~7!|~66U~,+p~;'w~<!|~6BR~*'y~46(~5)(;~8BQ~:&t~B",
    "2|~RBW~H&d~'-8~?2M~E'o2~,LO__END~(aX~'!8\x00~-dWdlfcn~5dY~'M5\t_DLFCN~*dX~)!4 ~:dZ~(e-_need_~&*H~,dstddef~%cT~0d)~'%c>~4Oy~1!O_find_objec~%eD``typedef long~%(0L",
    "mid_~%Z5#~(1fLM_ID_BASE\t0~0!9NEWLM\t-1~+V4`~)&KRTLD_NEXT\t((~&[y) -1l)~2!IDEFAUL~,!L0)~2fD~-RK*dlopen~(+u~%ZZ*~%,ue~(+cmode~),eNL~0IYdlclose ~'%D__handl~,!V~<J",
    "G~(%Usym~*!i~+,Z~&!t~(PL~.%x~+!Kname)~;1h~2]f~/%Pm~&'-~&)7 __nsid, ~V'<~(!zv~G&P~>&Q~C!Jversion)~%_?~6'*, 3~-WR~)&&~&!vdl~'SJvoid~-Q1~2'b~),r~&0U~%Zd~,%ndli_fna",
    "m~%e<~('1i_fbas~%!6~0!Ps~2!Psaddr;`$ Dl_info~2+Iadd~)UP~((3address,~(!Z~&Zifo~<'?~1VZ~&%*1~I%+~((t~&!L*__extra~&!>~'*Tflags~<+u~(aZ  @~&eb~&/RL_SYMENT = 1,`~.!=",
    "LINKMAP = 2~&f&~2V7dl~%%|~B+V~&%xrequest, ~3!Sarg~;'n1~'+2~6&AI_LMID~(&>~.!<~*&?,~.!=CONFIGADDR = 3,~'&X~,!FSERINFO = 4,~4!<SIZE = 5~1%EORIGIN = 6~/%DPROFILENAM",
    "E = 7,~4!AOUT = 8,~1%bTLS_MOD~%&h9,`~5!DDATA = 10~2!fPH~%&i11~/%gMAX~%!:~*)f~4.W~'.!s_~(-|unsigned~'*2s~&+Z~'.*serpath;~7!u~'ABdls~%:(~5!vcnt;~%Zg __GNUC_PREREQ",
    " (3,~%7V~%&Z~%-9ension__ union~)p0~*%W~&%8~&!/[0];~0!C__~+!E~%vx1]~(o!~&If~9!u1];~)I1~(&y~'1+~'>y~.;b~%'&~0&1~'&y~%;p~);udlfo~(('~*2Bfo_map_start~3!;end~+v-link",
    "_map~'!E~(!2~/!]eh_fr~%)U~%(BDLFO_STRUCT_HAS_EH_DBASE~1!Yd~&4O~%N( __WORD~&-A= 32~0)R__~-![_pad~+Rg~)L|~7%QCOUNT~'wQ~(!ocount;~:%7~%!D~(%7~(|Z~F(N__dfl~*u6[7~)|",
    "|~%!B~.)Q~*32~)5M~5*!~'3%ult~,98~)9m~CEqgrp^?%-M\t_GRP~,Ep~%!2^:%-M~0BQ^4%,U~%!L~MF?`#if (~&!Ud~';lXOPEN || ~3!:2K) && !~*!>gid_t_~'!3~)0u~'!; ~%!);~*F'~0!T~)(%",
    "~'(Zgroup~)0H~&2Sgr~)2R~+!6passw~%-r ~*%=r_gid~,!M*gr_mem~'0S~/>VMISC`# ~3's/FILE~%J;~+v=~/'7MISC~7'N_EXTENDED`~0CLsetgren~'+c~'<,~-!Fend~:!F~,'N *g~0!t~.Wp\t~+",
    "&e~;!mf~*!nFILE *__stream~1!x~-C<~/=Jpu~(!l~-QI~'%3~-=*p~)Ed~(%?~+!Af~.E4~;&xgid (~(*%~%!+~C'Unam~0L*~%Iz~0IbPOSIX`~+rP~+'t~*]VNSS_BUFLEN_GROUP\t102~*]V~/0( ^7%",
    "&Fint ~((V_r~)We~4'd~&1tbuf~+z|~3INbuffer,~(;O~%!4len^2%!9~'%3~4%4)`\t__attr_access ((_~&_Z_only__, ~)J> ~2).~)&Qgid_r~/)&, ~|&c~v&c3, 4)~/+.~)&Xnam_r~0+&~8NX ~",
    "|&t~|&t~'lD~71'~,'2f~,,A~3/Y~&1+~%_x~I')\t~O&|\t~q&u~),S^/%8w~-'-~+8g~-:P ~5:Q~+'V~%6;oups (~)&Fn~(Vd~(-V*__~&!I^1%+:~3+aouplist~0+cuser, ~+.Trou~%4_\t~2%6~&QI*",
    "__n~'%G~6%>ini~)&8~D%<)~+A!~C?|mntent~>drMNTENT~,A&~(!5^E%JSpath^:%Ia~(<4~)A2\tMNTTAB\t\t_PATH_~&!1~,!COUNTED~)!D~&!2`~+cDMNTTYPE_IGNORE\t\"ignore\"~1!DNFS\t\"n",
    "fs~2!=SWAP\t\"swap\"~/%(OPT~(dKS\t\"default~.!iOPT_RO\t\"ro~2!:W\t\"rw~1!:SUID\t\"suid~1!>NO~&!Ano~7!CAUTO\t\"noauto\"`^9%MJ~&)j~/C,mnt_fs~0C/mnt_dir~0!6typ~1!K",
    "opt^+%C8~%!vreq~.!5passno~)CU~),a~&2>set~&%n~6gm~.!7~-dY;~3=f~'!r*g~*%%~/AO~,JU~2=T~?!u~C4N\t~*6H~(!e~33N~)!O~:4T~(!F~&Mpbufsiz~,&|~*BK~,qvdd~0&v~5%z  ^1%*K~5&)",
    "mn~-N5~,%:end~C(5~/gPhasmntop~0EP~*%Lm^-%:v~('Fop~.%W~D2dqueue~42d^)%DlMQUEUE^,%Y7~(!5^]%Y:fcntl^W%YN^:%Y+~/!M~(&X~2QM~.6ymqd_t mq_~4r+~%?n~'+4oflag, ...~>y;~-*",
    "+mq_~'rC~&%7__mqdes~8*[mq_getattr~/!U~)E7mq~%<o~%*1qstat^?%F/~/%-s~6%-~+Bz~-+J~*%<~,,v~%%H~2By~6!Ro~F%z~.%yunlink~5Le~L(Mnotify~1't~-&a^,%+i~%!Ticat~1rv~,%,^(%*",
    "Xmq_receive~2%1~(4osg_pt~,Cdmsg_~(Ce ~/_/~(!Urio)~C'Ksend~7&W~F%O ~0%O~>%N~-6A~'Z)~%H'n^6%5!~4'Wtimed~A']~,+?~'&;~%5w~5'n\t~0'l~0!er^'%F_^F%K_abs^8%Kd2, 5~5+;~%",
    "&P~L(c~%*!~1&H~8(a~&!S~9&7~D&,^*%<G^0%Li^6%>5 (~/)(,~10b~'0(~8!!~<)I~?!b~2)g~?!U~F**~A&+~P*F~9!x__~/'f^(%F/~8*|~?(Usend~J(R~J0-~E'u~D'i~F+o~+6b~*'Es^+%IN~9,8^1%",
    "BF~00v~8(A~4!X~%/&~5%Q~3qf~,hw~&2fFORTIFY_LEVEL > 0 &&~+i!fortify_function \\~%']~-!Hva_arg_pack_len~1jP~&>H2~,jM~CB_poll.h~/Ad~&!8>~0!Oty~<Qq _PTY~,C.~%!2~;pq~",
    "()|ermios;~(!3win~&|k~+!]~'!H~2Cfioc~&CP~4B?~+-Kopenpty^&%=L*__amaster~)U|aslave,~.BS`^4%O5~&%Z *__termp~5!I~'&> *__winp~5HN~%]qork~5%i~|%W~*%W~D*Ewd~BvjPWD~,Wg",
    "~%!2~|vj~7vj~2s8~>vg~'l|n~+vJ~Cve~9vf~)bd~*!zu~7!z~%!; u~2!zu~5!z~0wm~&w?^+%.Bpw~)wj~)!4~(wh~%3I~&%Apw_u~&wg~(&Rpw~(wy~)!]gecos~-!5~'WN~)!3shell^'%&_~|xA~MxApw~",
    "AxA~:!F~-(!~%W*~.!P~OxB~(!nf~*!o~2TZ~2Jf`~1x:~'!d~-/H~(%,~lx;~-&su~&x<~&*S~%!+~D'Q~8x=~3&d~bxNPASSWD~7xO~5!n~0k]~%(!~+xO~5'x~trr~(%4~6oy~&>b^-%>L2~%ok~'!=~Pxq~0",
    "&ou~(xm~+)T~:%v~|'/~U'/2~%rw5~H'/~)vE~0''~Wy9~|'7~f*D~U':~Ky_~)-O~Fy_~C'M~Xya~|'A~Bz*^7%1:~2+,~0.+~)*2~&&Y^N%_+shadow~8AJ~+GESHADOW~,GH~(!5~;AR~3w;~OA=~Fwk~&%Y ",
    "~&wG~&!0~:t;spwd~/t9sp_namp;~.!6pwd~'!6^)%AUsp_lstchg~2!;min~3!8ax~2!8warn^'&:h~,!:inact~3!;expir^(&;B^.%CE~'!Fflag~+u=~3>7sp~1=m~1>9~<!H~+'f~%:d~O!P^;%7S~:!as~",
    "*%6~.!bstring~>!df~*!d^1%;d~5?1~-%9~-!r__p, ~3!l#~5<2~0/3~%%'~+<4~(!|~&1,_buf~0/E~,57~/2.~.%l*^T%84~1%q~582~&qK~:&-~27j~J7]~S&6~4:Fs~,(-~4*J~?&9\t~D&3\t~q&-f~,&",
    "-~.+%~|&'~O&'~,HH~,&3lckpwdf^3%gt~+!Iu~9!J~D7jpaw^?%srSPAW^-%sr~'!4^F%!9ched^T&Ygse^'%!7^7%[vhort^,%g7;`  p~';)pgr~%6w~(!n __sd~0!4^-&Rcched_param __sp^:&R)cgro",
    "u~,!Dad[15];`$ posix_~%'z~%)vt^9%b-~&!ballocat^&&OI~&!6use^,%ZE_~&!u_a~&dt*_~'!-s~/%P6~0%P_file~(!Q~'%Y~(<8~%N!~')BRESETIDS\t\t0x01~5!GSETP^&%JQ\t0x02~8!HSIGDEF",
    "~%!H4~;!HMASK~%!I8~9!ICHEDPARAM\t0x10~=!KULER\t0x20~2BY^)%?_~,!]USEVFOR~%%R40~6!H~%%|D\t\t0x8~:!FC~%'9~)m00x100^,%ZQ^2%+[~,9,~*)' (~&,6~/U/~&NQ\t~9Kbpath~+!F~:*",
    "!~,!]`\t\t\t_~-!D~6!j~&,?~0s,ttrp~+3E^(%Csargv^5&0B~.!Kenvp~0!K~5OM5^4%L8~+%pp~+'Zp^7%z9~+yk~>'B~1'3 ~;'4~*') ~3'*], ~3&q~>&c~6&a~%%B^&&VY~9%X~(%&^E&TN~0!ldestr",
    "oy~_%-~<%.getsig^'%CP~(<b~3%:`\t^&%;h~1+=,~(!=~)5;^1&6|~'%-^>%w*2~B'1s~.&&~E-2~)%p~'EK~3%v~*&U~n&%~&((mask~;(%~/%S~)zX~*&3~)F!~8(,mask~;*)~K((~&&&~K(%^.%%8~D%s~",
    "a'w~%<w~P'u~1&)~*=t~/i;lags~g+v~'%x~4%r~9%Z~D%N~E'Hp~%?+~Q+C~''J ~58i~%!y~g'=~(%n~92I~,+'~+C[~?%N~F.ached~&C[~D2g~;2h~3*d~+%+~h2e~,&%~?'R^*%MT~H%T~K'S~%GJ~a6=~2",
    "HE~64M~)%>~m'h~&&7~U6O~3&/~5&i~i&0~.>t~1=%~1?;~*%Z~,!=~Y)r~.%.~4=I~9%Q ~S%T~F%Uadd^&%O6~J%U~,5K~0C]~'!I~'4>d~,!7~CHD~-!d^'%PXmod~&VJmode^F&9f~I&u^'%Q,~H&v~0&l~)",
    "&b~n([dup2~X*7~5(P^)&RAw~D%y~4e:~I'thdir_np~E&7\t~/2I~-&:\t~>*P~F0)~J&1f~G&2~)%n~W)t`~B+Zfrom~I%V~)%Urom~n%Wtc~&<np~Q%Wtc~E+0~5ve~.a2~&%=ex~&a-~6c;yslog^1%Bt~(!",
    ":^0%Bv^)%AL~=wY\t_TERMIOS~,cu~)!6~<cwf^=%5n^9%;=8`^6%7;~%%!^*%:Xp^7%:X~&B>p^2%:Xp^=%:X~1Yu~0ee^*%E(~50;~)[?CCEQ(val, c)\t((c) == (val) &&~'!,!= ^&%3N_VDISABLE)~",
    "*[T~(t+peed_t cfgeto~%!1~/sP^/%CSios_p~4jG~-!qi~_!qint cfs~*%c~;!g,~)%H__~%!-~=!xi~c!x^3%;I~0%2~b%1^5%q5tc^)%i:~*79~I('~.!ps~2!p~'<'ptional~,6D~-R7~H%>~:'Jvoid ",
    "cfmakeraw~='J~4'8~/&Cndbreak~2&Edu^&&jN^0&+9~-!gdrain~*!c~1<ctcflush~2%-queue_selector~;(<flow~2!f~&(0~0'Y~Z2M^)&qG~&1q~%*Tsid~+&U~3't^=%GX~%sity~'[js^O%ULtty^8",
    "&,q~76.TY^/&-&~(!5^<%1g~(!PPATH_TTYS\t\"/etc/ttys\"`~-!sS_OFF\t\"off\"~0!;N\t\"on~0!9SECURE\t\"secu^+&,U~'!BWINDOW\t\"window\"^*%Vq~%&w @`~%kd\t*ty^'%M;~*!3gett",
    "y~,!4^&&)p~(%/TTY_ON~.sQ~%!8~'%d~%sE\tint\tty_status~'!t ~%!u~&%e~,%/comment^'%MT~/7b^.%.?~'&:*get~'!.~0|t~<!T^3%0Btty~2!d^'&6c~>%1^'&&x~7!I~D+[ucont~%>Z~;+Q _U",
    "CONTEX~++S~,!7~;+U~0;Hindirect-^&&|x~0!Hsys~+%f^3&!x^.%/I~'!N (~(!X~&Tpucp^/&oR~.('~)![~&([~A!d~-!ewap~7%F~+IGoucp~+uP~9!Luc^,&znNL __IN^''2ERETURN^5%8Bmake~:&z",
    "^'&ix(*__func)~'*C^,'*Sargc^&&(3~O*Ylimit^=&,IULIMI~.*S~'!5~<*Q^*'PCUL_GETF^'&it1,~)2*~,!=\t~+!/~&!XS~'!1~.!TS~+!TS~*!T__~&!gMAXBRK,`~+!6OPENMAX`~509~((X^)%=o~&",
    "'7~(7%cmd~U('time~BI?UTIME~,63~'!4^h%dM^Q%cy~5IZ/time^'&1&^/%bCutimbuf`  @~.:7^,&&B~&N8^&%p?_t ac^&'Zb~/!:mod~&!;^('e7~(!B~5!W~.!U^'&el^)'V_n^B'Bu~%(r^5&<J`~1dz",
    "~'&d~(!F~%%P~CaW^Y'MD~%%m,~6%n^)%-H~:!!~D&5~=!o__~%%Q^''Fp^/'?B~&'a~)!G~3O-~C-Cmp~;1E\t_UTMP~.-<MP^H%N6^-%9=~2/m~/-V~&%Z^+%Mr ~%%:FILE~'ACUTMP~2!ANAM~5!EW~/!eW~",
    "5!A~+!e~%!E~0H6login_t^(%s+~/E]~/6k~%!Q~/Pcutmp *__entry~8O]logou^2&PUt_line~4!Y~(%>wtmp~7![^0%0iut^<'-fut_host~9%;upd~4%;wtmp^-&HU~/&uutmp^2&7_~-0+mpna~60.~5U,",
    "~,%/getut~5B,^0%QI~E!Kend~8!K~:%Nid~7)s~J!iline~7!k~8*)~-!Kpu~>!lutmp_ptr~HRm~'C9ut^.%PU~(!u^)%Iq~,!:^5&vB~0!w^&%ip~7'T~/!x^2%QU~S%?line~9%B~%-Q^+%L%~S&[~O4Gx~B",
    "4HX~04IX^L&K7~%>v>~-:X~He;~8e:~*TI~154x~2dxGNU~+dv~&&9~/5IX~4!D~/5L~+!HW~0!kW~8!D~/5RX^;'za~+)V;^=%El~10ux^A%|X~;!G~+%Fx~'0'~N!P~51Cx~'1D~C!f~70Ox~)1A~<!j~%1<~=",
    "!j~%!,)^7'?W`~26(x~96)~5N.~'7cx~47dx~+Cp~3Ab~1%t~2%-~%'J~*8m~5!b~)%/~48r;~;%%x~;4x,~9%z~K17x86_64-linux-gnu/sys/e^'&:+~:1MSYS_EPOLL~,1Q~+!8~.1Ustdint^;%X=^C%X>^",
    "J&XS~0!N~'&H>~,2f~&%xPACKED~,2K~.!;~)iknum ~&!>EVENTS^)%oh~%!8IN = 0x001^*()-~(!<~'!+~*!QPRI~'!R2~/!RPRI~)!,~*!T^&'?Z0x004~/!TOUT~)!,~*!TRDNORM~&!W40~/!W~'!A~+!",
    "/~,!_BAND~&!_8~2!_~%!A~+!/~*!_WR~)%B10~0!_~'!A~+!/~,!_~)%B2~3!_~*%B~&!/~*!_MSG~%!Z4~1!ZMSG~)!,~*!TERR~''o8~/!TERR~)!,~*!THUP~&!T1~0%/HUP~)!,~,'f~(!V20~1%f~&!A~*",
    "!.~+%jXCLUSIV~%YKu << 2~1%s~)!G~.!2~+'pAKE~%%M~'!i9~0's~&!D~+!/~++3NESHOT~)!d3~0&7~(!E~,!0~+&;~+!a1~/&3~'!XET~*T|~,!D_CTL_ADD 1~3!;DEL 2~3!;MOD 3^+%eAunion ~%/j",
    "_data~%_R~%3v*ptr^(%djfd;`  uint32_t u32~(!3~%W]u64;`$~+!m_t^*'Eg~&!9even^&%fT~)!m~%!6s;` ~-!_ data;`$~/1(;~=<e~%k7~%!lcreate~(P)^/&p/~:!U1~)P]^-'Rj~18>~+!]t^)(",
    ".uep~,z],^-%;S~-G.~+'2~%Q;ve^/&p]`~:%?wa~*c:~&%A~;%!s^1(3wmax~'!=~'!4^)&[C^H%x)^6'Uy~4&%p~S&&\t~>%x~+l'__^,%Tess~d&;~Fb-~+&T2~P&U~2(S^9&XA~,&l ~u&m~8c;^8&]<~,&s",
    ",~G&t^,%Rj~+&vs~,!;~F'%~-!P~1'+^-&[d~,%z^)&[d~['M~0dJ~-*%~5%=~Td_~6D%ventfd~CD'VENTFD~1D)~(!:~8D+~2Bv~(%A^,'qH~)5f~'!B~%5Y^9'ot~%-L~&!M (^/&dUcount^6'f(;~5!i^'(",
    "En~)3x~*%S *_^&(O|)~7!a^'(Ea~4!b~+!a~X(pfile~B(mFILE~0(j~&!7~=ir~'!iFCNT~%IX ^3''Y^8%=u~)2G~%vt~*H(~%!2^-'vF_INCR\t1~,!5XTND\t2~*HF~)&5LOCK_SH\t1~.!5EX\t2~.!5UN",
    "\t8~0!]NB\t4~06Pfloc^3%6*^)(!V^P',E~5(zi^&&|t~B)%INOTIFY~0)(~)!:~J-o~)%A>`~*w(~'!8~+?2int w~.A.mask~-!4cookie~-!6len^)&Yy~%T[__flexarr^)(]c~')IIN_ACCESS\t~%HB~%",
    "!!1~,!BMODIFY~+!B2~-!cTTRIB~+!B4~,!BCLOSE^&(T3~+!G8~2!GNO~%!I~)!H^+&)0~(!H\t (~.!y |~1!g)~,!ZOPEN\t~*%G2~-!zMOVED_FROM~*!F4~3!FTO~&6f~(!H8~1!H\t~&%l~*!x~&%k~(!f",
    "~-%fCREA~+'210~-!uDELE~+!B2~4!B_SELF~)!G40~1%b~.!E800~.)oUNMOUNT~(!E20~.!iQ_OVERFLOW~(!F4~/!F^&'CED~(!C80~0%1~W),~F'u~-%7ONLYDIR~%%Y1~&(t~-!DDONT_FOL~(&H2~'!H~+",
    "!GEXCL_UNLINK~%!G4~3!nMASK~+)7~'%90~1!GAD~%';~'%5~.!kIS~'&!4~3!e~'O+\t 0x8~)!d~-.>~)XX~&'H~&/6~('DDIFY~&!/~&.j~,(<~&(N \\~%C[~3(V~&!6^&%-T~0-E~%!!~,!a~)-?|~*,N~",
    "&!/~',;~3!X~+,7~*!l~%!2)`^=%9R~(3A^&%kC^<&>O~,!N~<N2~3!Wadd_watc^-%IA^4&G<~)4:__^(&!b~>%_rm~2%(~&!-w^P%>u~68A^&&y&~A8>OCT~1e6~'!8^K%4R~18Loctl^7%?Zoctl-~*eo~'%f",
    "^;%Jd~JMC~%%*~,'y^2&SK^+(*z^.%8O~OKf^&%1z~%%?,~N%A^*(Qf~%!d_^0%17~-%=~,!G~Y&S~)Je~&'E~.%!~lJTipc^=%?q~%++PC^-&]h~(!6^M%GIpc^8&Hu~%%R~-ka^H&zA^8&z?^*&co^O'!;^8'!",
    ":~1!w^&%te~3!x~&!<^'%u-~-!z~/!W~2!|key~5!z~%!; ~%!)~-!x~.!T~8IV~'+o~&!lfto^1'G:path^,'L'proj_i~h2Pmma^A&P5YS_MMAN~02O~&!7^E%)=^/%jW^M&g%~((Loff~,'s ^;(u3~*(l~%!",
    "Y ~%!)~)02~-!B~%S+~*!D~&/0~*)<~/%E~|+8~&!|~-'T~&(l^,%<mMAP_FAILED^-(IV)^8'S,^=(xZ~,|>*mmap^.(-Z^+&Y%len~++Kt^-(<y~%;x~+hG~)(E~%!+set~D67^,%E:~&%S~16>mmap~(5g  ~",
    "M&%~.h[~6&*~%*-~)&,~+!Zmmap^6%E2~%'Y~&!C~05q^A(]U~*(F64~P(H~M&C^?%mMmun~?)w^6'fM~%!cprot^1(4?~:&9~2n?~,!t^&(ws~C!q~&D?^C&*4madvi^,(Q;~:!zadvic^3'f9^5'S8^2&)6~g%",
    "9~/&6~&Yt^2(Jx~;(q~.)T~T!h~2%Rall~GHh~'%A~%!T~0Io^7&pN~,!eincor~+'jstart~0'k~)B%~(9Gvec^0%Gg^>'%*~..Tre~<-'old~&%G~)!5new^,'Z2~..a~.CR~.&[~%%8^&%R_pages~:&gsize",
    "~62D~)!Gpgoff~8iO~5*|shm^I'h5^.&8V;~2!o^;'dC;`~58M^)&-[~Y>-sg~BF:MSG~0F:~&!6^?%s:^P(e7~)Gy~3G&msq~5!;^0%a,^u%ER~*!w^''ck~3!y~'!=^('d5~-%%~0!Z~**r^:)C)msg^(%c8~&",
    ".Zsyscall_slong_t m^/'zzmtext^+(N]^8%E*~FQ)msg~+Q*msqi~)U+cm~*yV~%!<_ds^'%L:~P=r~4Q2~&%I^=%a)~Q%h^?%az~&%B~7=l~&'.~*!I~1Ph~/'_get (~&JU~%K5~(%smsgflg^7&*:~(*jms",
    "grcv~/&]~(2Smsgp^.'_isz^+%!d~+SBmsgtyp~/%J;~3<Ogsnd~/%=~.8c~;%D~0%,~X1Zparam^>'Z,SYS_PARAM~01b~'!8    1~11ONULL^A'6;^7&|-limi^0)X<endi~&Ix~+!fignal~51u~'&S~'[S~",
    "'%mNBBY\t\tCHAR_BIT~%&a^*(OFNGROUPS^,'b!~'!6_MA^+%QT~'!8\t~-!A~)A;~*!wMAXSYMLINK~-!|SYMLOOP~.!|~+!P\t~-!E~3%'CANBSIZ~,!|MAX_CANON~*!y~'!J\t~+!>~6%wPATHLEN~,!v^&",
    "(6+~/%s~'!L\t~*!A~3!wNOFILE~,!sOPEN~/'k~%!H\t\t~*!=~6%lHOSTNAME~/%pHOST_NAME~1%u~+!U\t~/!J~)%1~%,UNCARGS~)3SARG~'!s~)%v~%!E\t~*!<~%1x^+%Xs~'!E\tINT~(!F~.1w~*%;O",
    "~%*S~,'&~%!4\t65535~1%mODEV~,!PDEV\t\t((dev_t~&R]~2%2DEV_BSIZE~*!_~)!6\t51^3%(n setbit(a,i)~&5d(a)[(i)/NBBY] |= 1<<((i)%NBBY)~*teclr~<!_&= ~~(~.!b~*!cisse~+!b~1",
    "!c ~;!aclr~-!a~A!b ==^&(ii~('Mhowmany~*'K~'!4(x, y)~%!zx) + ((y) - 1)) / (y))~1M'GNUC__~*!proundup~)!p__builtin_~%5[ant_p (y) && powerof2~%!3~,!!\\~:9e?~*%o~'%n",
    " & ~~~+%|~4!!~;!w: (~9&l *~%!*)~)=,~7&c~A!h~)'_~'!g~(&w(x~(*f~%!h~'&I(x~,)0~(/YIN(a,b)~&)p<(b))?(a):(b~+*EMAX~+!I>~.!I~N9Fersonali^7'rU~/9MERSONALI^.'re~1!> ^B&",
    "0Q~(DUUNAME26^(%WC0000~&A(ADDR_NO_RANDOM^&&0w0x^&%(b~'!GFDPIC_FUNCPTRS~'!D8~*!DMMAP_PAGE_ZERO^(%SR~/%2COMPAT_LAY^)%XF2~+!HREAD_IMPLIES_EXEC^(%X5~/!n^&&3N32BI~'!",
    "l8~+!FSHORT_INOD~&&B~&%U~'!AWHOLE_SECONDS^)%Tt~*!cTICKY~%G(OUT~&!E40~7%OGB = \t^)%'o^+'MI~-(IPER_LINUX~'']~(!r~)!;~,&E000 |~1&d~0!U~%(c~,!U~.(t~*!SSVR4~(!L1 |~1",
    "&]|~/)6~-!a3~(!a2~5!a~+(;~+![CO~,!a3~5!a~.(Y~7!qOSR5~L!n~*!_WYSEV38~(,m04~K&9ISC~*'X5~2!]~*!NBSD~(!L6~+'%UNO~(-K06~<!gXENI~)*<7~K%u~%*+32~(!a8~1!=~'+r~&!B~/*zGB",
    "~+&jRI~+!o9~<&'IRIXN~*!Pa~A!P6~)'nb~<!ORISC~*'Vc~+'qOLARI~)!=d~<!lUW7~(!Le~N,gOSF~)%zf~*!:HP~)//1~+//MASK~'!:f~%!R$;^=%1,~+6!^+%Jg~+No~'!E~gxJ^8%p3~.xJ^4%p3^4%p",
    "2^=%'[^(%o&^3'EW~4Zl^*%Rg^'&gb^G%pK~*D?^*%df~0'lnfd^''It~'Uspollfd^-)zb^&%dv^,'1E^*%d/~,!9r~*!:$^7%d!~/Sapoll^*'uj~%%J *__fds,~'%m __n~%!2^/%a&~&WF^&(4sied^.%UU",
    "^0%UT1, 2^6)Bq~1%d~K%e`^=)Mh^+%X7^9%X1~X&A^<)Y,^I%[K~%&g,~H&h~9E>~&!!~C'+~F!h^3%[U~7!T__~%&:^&(=?~S'm^+(=a~(F>~%)y~)%&^:(<m~-19^](<|~1/Lpoll^-(<S~L2Cr^>%=A~'F7R",
    "^-%=A~-!8^E%.n~%%D~(%;>~.%0PR_MTE_TCF_SHIF^+%WI~0!=^,%WB~+!?NONE\t(0UL <<~1!X)~6!vYNC\t(1~M!WA~&!X2~M!XMASK\t(3~J!WAG~'&h3~5!?~&!v0xffff~.!|~(!_)^9%6+~FlZ~%(x^*",
    ")ZW^&)ZT^f%AG~%%&,~4%',~%wL^B%A'~,!G~/!nd^B%?g~,!d~2[&~Y<1trace~EPETRACE~1-n~'!9^S%8b~2?5num __~&%d^(%D)`@````  ~'%7~%!)M~%N6^*&&LPT~&!;_ME~/!L~,!bPEEKTEX^')Oq~",
    "+!c~&P+~0!K~0!b^')K-2~2!bD~0!K~0!bUSE^')N;~0!bU~0!K~-!bOKE~'&,4~-!bWRITE~+&-~'!L~0!c~'&-5~3!cD~0!L~0!c~'&.6~3!cU~0!L~,!cCONT^&)Oa~+!]CONTINUE~,!I~,!YKILL^&)Oz~+",
    "!Y~%!8~+!E~,!USINGLESTEP^&)P:~+![~%!8~1!K~,!dGETREGS = 1~.)M~(!<~.!L~-%H~*!b~.)MS~.!bS~2!bGETFP~(!d4~0%H~'!>~0!P~/%L~*!h5~0%N~.!hS~4!hATTACH = 1~.)V~'!;~-!J~,!]",
    "DE~(!]~.)V~'!;~-!J~1&qX~(&-8~2&rX~1&sX~5&t~)!k9~2&uX~1&v~2!kYSCA~%+82~.(L~(!<~.!L~/&>_TH~%/1ARE~%025~0&D~-!E~6!]~/&N~0!z6~0&S~4!z~/!:~+Ho~&5i__~,)nRCH~&>t =^&&6",
    "5 ~+)s~*!A~1!S~*75~,'jEMU = 31~0'iEMU~.!J~2!]~./232~3!j~,!G~8!c~200BLOCK = 33~102~&!>~2!R~/([OPTION~'cZ^-&>A~&(Z~(!D~1!V~/*NEVENT^)&>S201~0*N~)!E~2!X~/!rSIG^')c",
    "d~%!q~12*~(!D~1!V~/&W~/!o~127~/!oS~5!o~'37ET~(!n~--q~/!G~0!4~33q~*!p5~1!pS~0!pS~+!p~,!q~(kt4206~3!mIZE~-!0~,!dINTERRUP~)%W7~1!h~*!G~0!4~,!pLISTEN~(!m8~1!m~'!D~-",
    "!1~0<W~/(y9~1!l~,!I~2!6~2*g~)]k420a~4)(~(!H~1!5~2*k~,!sb~4)+~/!sS~7!sCCOMP~%3EFILT~%=A~%!|c~3!|~1!P~9!=~8%3META~'?:~%%5d~=%5~)!R~;!?~06G~'6a_~,)9e~4(?~.!N~7!;~0",
    "%-RSEQ^')pAURATIO~)+:f~5%3~3!T~=!B~07q~(%]USER_DISPATCH~'!W~'%J10~4*)~>!a\\~K%5~8(3~<%e1~<(C~A%d~A!P^((eN~.WO~%K;-shar^&(6l~YMq^9)8|~;i5^')8z_~.i7~)!9~S!!~(!oLI",
    "ST_HEAD(^&%L0type)^&'Y!\\~(h&name @~&!8\t\t\\`^(&n6type *lh_first;\t~3_b~%!T$~3%>_INITIALIZER(head)~(%,@ NULL ~0!YENTRY(~4%r~:%me_nex~5%l~3!R*le_prev~5&D~4&W~%&",
    "U~0'vINIT~&&L do~(%n\\`\t~&!7->~('V =~%&f;~'!D$ while (~-%20)~1%-SERT_AFTER(listelm, ~%!(fiel~*%E\\`\tif (((elm)->~%!A.~''7 = ~(!c~0!>) !~&%k)\t\\`\t\t~8!K~+!2p",
    "rev =~%%A~%'c&~4%B;~(',~7!w = ~%![~)!L~/!H~&%4 &~8!g;~S'nBEFORE~A'o~7%Y~4%X~&*j~4!Y~0(H~(&e*~8!n~1'6~:!L~8(C~Q'6~%05head~5'1~B+&~/,d~+*v~&*w~/!D~I&D~6-k~*'D~=*X",
    "~/!_;~M.DREMOVE(~4'2~)'3~4'2~*&v~'&x~E-p~'1p~%-r(~6+-~'*]~;*X~3.N~J&mFOREACH(var, ~&*0~&&t~(&ofor ((var) = (~1)q~(%t\t~%!G;~*4u\t~*!Xvar~11M)~23zEMPTY~(6L~1%9 =",
    "~'(3~/&;IRST~9!Y~/!QNEXT~,)Y\t\t~5)K)~.9jS~f9ks~N9lS~V9mS~Y9ns~A9o$~3'6~A9+s~Z9,S~29-s~M5:s~+2's~03ys~,3b\t~:!D~/4n~P&1~>45~<&,~0'i;~:()~-3C~I%t~&2l~,%t~26)~5%<",
    "~0!7~5(!~O%V~,'Jtype~8>g~2%b~''!)~)&.~3&Z~&![~(!|~''s$~+-3els~./9~.-Fcurelm~7(k\\`\t\t~%&j(~&!K~1)K!~(%v~'%*\t~)!v~6!U~'!|~7!u=\t~+6f~6!H~6!x~+&o~I(s~E6M~*6L~1'",
    "D ~&6D ~)!F~,68s~-4E~/2E~+69~6)w~.69S~16:~2!Z~0!R~16;(~5.h~06;TAILQ~66<~I6;tq~B6<~/K=~%!Wla~7!V~.!e~.7%~*&*~A7&,~(?v.~*%t ~2!r~U7;tq~O7<~&%9~B7=~*%z~.7>~.!Fla~%",
    "!E&~2![~K5c~(%d~G5d~2Fu~)')~,-W~)%X)~),U~-Fx~.&9~5!v;~:'8~Q6N~-&bTAIL~L8H~+&Z~-(]*~4&G~/Ha~N&l~T&G~&=!~&&H~;=)~C)6~1<e~(!A~*)>~W)=~9%(~S=k~&&y~E;s~&&l~5*h~1!8~;",
    "&q ~:&r~5.K~R&B~Q<]~+&F~3<_~2'H~6<a ~-<T~D<S~,&d~)<T ~0<U~))Y~J<V~.*W~&&j~8%!~)<_\t~7!F~A)H~&Q,~5)M~&!y~3,G ~R=I~&(X~==J~9Pu~+3o~QPw~*&t~2%_CONCA~&7T1~&%a2~1-_!",
    "~(9?~%>6~%!P2)~(+4~%%H~&3%1~03&~&!N~3*P~D!S~&<6~,,?~%9U~(%N~)4)~F(V~2:N~6A[~--v~/A]~')<~5A_~*(s~0!T~AAb~)(r~/AcIMPLE~cAd~SAc~YAb~+&)~LAc~5Ab~'!r~UAc~PAb~'%9~BAc",
    "~BAb~466~SA_~)%b~ZAa~3A_~AA]~9;A~6AZ~]AY~.&[~PAZ~BAY~BAX~D&h~U&D~aAW~<AV~>AU~H)6~8%%~SAR~'&u~SAS~4AR~1AQ~?AP~A.;~S&=~QAO~=AN~3'D~kAO~FAN~RAM~CAL~BAK~0AJ~EAI~<AH",
    "~[AG~'(Q~XAH~[AGq~5pD~)8R~5pGs~;=N~(&D~5pKs~3=O~'!U~A=P~6=O_~5[6, qual~A=Tqual~',5~,Bz~7<m~,!S~%!.*~K[;\\`$~(&- ~7_?~2&E~+..,~+*U~U]!~5[|_~0[|~5'a~9'Y~).X~K'W^O",
    "%06~2'_~,A>~-&9~/'S`~0'V~A?e~B_I~4Rx~S_G~d_F~3_E~+_D!~4?c~1Ug~((Z~%3K^6%17~,Zo~(o/~+*1~6'<~7!h~7(8^;%+=~*%t~7(>~R(=~OBC~8a|~8%x~0'5;~/Bu~BbR~E'r~S&t~_Bs~<bN~*W2",
    "!~,Bs~4!G~3'U~|+K~1+K~8&1^=%9L~-+R~8!i;~T(c^T%9O~,+8~4%[^7%9Q~4)9^:%9R~,%4^=%9S~-'B~e'=~2Ea^E%9Q~2+Q\t^4%6D~F+U(~7'z~I+T(~:(f*(~<(5~b/f^X%72~[c7~4c6~-%[_REVERSE",
    "~,%fhead~&>a~(%p~1%m*((~(;L~(!R *)(~0(=)~-!/;~?&5~8%!~0&Mprev~.%)~1&Z~3eo~8,(!~0cN2~7es~4e?~5eq2~>;O ~1!y;~.fV~8%8~+80\t~pfT~2fS\t~2+S~2J(~2fR~3![~0!S^A%=P~+fQ~",
    ".!_LA~'%6~*+|~%O6~W+f~/%,PREV~&%i~0-+~=%2~40_~/%7~-(<CIRC~dhrc~DLA~1!U~'*i~6!S$~6%t~<KI^('>*&~&(h~-!2 ~3!w~Thjc~BKL~1!S~'5T~3'=~*&i~3(e~AJ]c~,FG~'&i~&!?;~3!N~(/",
    "A~4!M~C6f~*%g~PCP~-+gc~;CKc~.A]~0!>~0>O;~,;j~8!s~%_P~-&p^/%R9c~4G>~4;B~8%1~4%v~&!p~4?5c~Yf(~/(S~'CC~i(T~5EUc~;Ctc~->1~9(T~&!f~D(T~2Nm~I(Uprev~:(.~8(U~3E;~R(U^O%",
    "J%c~2Smc~.Q+~:(R~5/c~,iI~*,G~3(?~X,u~0%x~;'j~81s~Ot.~/(2~OSg~,(2~63>~8(0~/'?;~6(1~*mW~1(2~W,P~/%G~;0R~75T~W(0~JLy~J4.~=+5~60g~1'4~G49\t~7Mjc~/Mj~5&;~91n~>)?~68-",
    "~B&<~61y~<&<~+W]~K)N~WpSc~7Ne~%tO^,'8|~/-v~7Nzc~3Nz~/%t~4O!~)&!~=%|~%EN~m%z~&FT~5A_~6Je~<0.~2&l~5Jqc~2Jq~(!U~)J6~0!T~%&u~1!S~?sL~)(]~1!_~*JB~9!_~%'B~)'= ~)%uOOP",
    "~&%H~10i~(4;~P0b ^''-j~1'F~(.( ^&'-7~+|.~++8~5%s~%&[~L%s~=0>~3%s~%(e~>%r~(+0^K&,=rando^D'C(^&'+4^0&V2~(!9 ^Q+BH~*)fGRND_NON^&&C&^-*<T~%!>~&%2 ^-*<I~%!<IN^&)FC 0",
    "x04^3&oe^('HYget~&&d^*'W)^1*GNlength^5&ia^/(D_^)'W!wur~4!S^A(I]^+)gp^'(y<entropy~B%q~8%E~J%B^X&2kreboo^8)N]~.*PEBOOT~1*P~'!9^=&ww~'!URB_AUTOBOOT\t0x01234567~.!E",
    "HALT_SYSTEM\t0xcdef0123~.!HENABLE_CAD\t0x89abcdef~.!G^')aX~&!H~.!>POWER_OFF\t0x4321fedc~.!FSW_SUSPEND\t0xd000fce2~.!GKEXEC\t0x45584543^='%C~&(7^(&eVhowto^g'%-re",
    "sourc^C(JLRESOURC^1(JP~*!;^L'%8~*%F^-'[Q^7'[Pid_t ^1'[N^5'[M^3&|T^2)BfGNU^/,!0cplusplus~)%F^'&fZrlimit_~(&+~2!5_t;~1!Xusage_who~-!0~3!Npriority_which~1!4~%&p^-'",
    "|e~&*'~;%S~'!E~5%E^(&lW~2%2^0'Ib^;'z4~'1t~&%S (~3%_^&)wA~%!0^1(f6~'![*~(![^<,=:^Y'_<~)%q,~E%r^0*_H~2%u,~*&o64)^.*>_^A(Zl~*'R~+!k^Q'z5~-(G64~F&R~-&J^&,RQ~E(F^,'g",
    "F~E*5s~S*5^-'(n~|*;~-*;s~W*;~?%|^('rIs~+*H~D*<~*'Ys~b*<s~P*<~3&K~6*C^&*TD~9*F~/+o~%1I~%%Q~+1S __who^)%<o~'!I*__~%!,^9'z)^.'0k~*5F(~.)R)~A00~%%5,~7%h^E)Oa~,0C~/&",
    "7^?'lW~)%O^.'lZ~+0B~&!w~-!N^3'[f~0(;~(5E (~25Q~%&Uich,~%9f~&&f^9'|Fs~S!s,~+6x^1)Iq~X=isem^B'0OSE~1JK~%!6^C)pQ^o'y9~%&!^4)A0^T'?5^*+&Qembuf^&)&f~(J9^*'>Ksem^(-=E",
    "~.!8op~2!7flg^6)op^G'.wsem^+'.xsem^*'ulsemnum^-'uz^G'/8~C4wm^H'wQ~E%c~?.p~&%<^6'wL~''!~*!I^='wLsem^8'wLnsems~+%|^0'wY~.!mop~/&]~-*B *__sops~+O6nso^.,..^4)Hu~H)q",
    "timed~W%R^8+ox^3'AO~,*R^9+dp~D*T~'&),~F&*~I5m~1&S~I!]~B&u~C+g~'&M~'+k^1+]y~+(x~.!S^H'CG~M4hnd^8(x&~04nND^.(x+~0!;^R+|l~4NV~EDm~(Zq~(&8~(*Cout^+(b*in~%!0^&(Hk*^(",
    "(DA^/+mucoun^Q(I(^8-6f~(%b^,(HP~<%m^*(F5~.%q\t~/%q,~)&h~82L~''.~*!K~QDB~0(%^+'?N~M&5~,.0~2(-~b,,h~D<qH~2<qH~|<q~:<qhm^J(:/^/(H=^|*E5^8)Y?~G<ah~-<ahm^6(6O~%!<^q(",
    "8;~&%I~F<f~I%h~A5'h~;<kh~(<kh~E<kh~3<k^5(Fssh~8<m~&jashmat~/&h^.(7*shm^&(II~-!x^<)p=shmdt^0(MZ~'!n~gem^&(5F^D)8/SIGNAL^2)80~*!;^C)X9^9+6<^2-o(~'%h^*+qb~(!7_sigi",
    "nfo^.)Jsssi_sign^(-fr~)!8err~2!8^(-fw~-!fpid~1!7^'+hk~,!6f~2!Jt~3!aban~2!8overrun~2!hrap~2%y^(*=D~.!9i^',mY^();h~%&6^&)O)~-!7u^(*,.~-!9s~5!9^&-(/~&!816~+!8_lsb~",
    "-!<__pad2~1&%^&(H3~1%'call~-%,~)!Varch~(!88~(%'[28^',o%^<)>0~(*4^2)!?^,'djmask^.(Qj^=,8G~Y-qtatfs^C'poSTATFS~1-n~'!9~Lo[~(%A>~APC~:dt~%!i^6,K!~(.G~&!G~'4o^C*ez~",
    "Z6t~%%7,^.-OM~D%e~)>Z~%!9~0d6~)%i~16R~&!l~(!Z~Vd3~'!c~D&(~&cs~I'l~PpPf~()F~',h^.-E*~I)?~a)<~'%S,~F%T~()1f~6)2~6)/~(&df~_)1~)!d~=%|~E),^P-Et~90gv~I0hV~60iV~T0jvf",
    "s^/%!I~2+6~+Evfsblkcnt~5E|~*!A ~*!.~.F-~3!g^,-*e~)%5fil~:%5~(!A ~*!.~0%5~1!g~**M~(,Y~M&N~%8L~|&P~,!A~'%7~T&R^E'pQ~=65v~266^/+'H~(]I~+-Pv~&/Q^.+pi~|6T~(6Tv~96U~3",
    "&+~G&,,~(!?^((%+~K6vv~'6wv~_6xv~46y~7(R~0&K~'w-~S(V~U7Av~=7Bv~|7C~/7Cv~>7Dv~77Ev~N7Fv~(7Gv~a7Hv~?7Iv~|7J~47Jysinfo~CZ=YSINFO~1ZB~(!:~G7I~%%L/kernel^A*bk~'%m^*+p",
    "+~'!3^(-NC~8z8get_nprocs_con^?+hL~*!Q^;*Ev^)(9cget_phys^,(zc~4%)~-!Uav~<!W~[)6^&+*]~?!!~0)DLOG~3)C~%!9^J-b.__va_lis~/biarg~6=?~%&&-path^*)JM`^-)eOG_EMERG\t0~-!7",
    "ALERT^-)fIG_CRIT^-)fJG_ERR\t\t3~-!6WARNING\t4~-!9NOTICE\t5~-!8INFO\t6~-!6DEBUG\t7~.%tPRIMASK\t0x0~2!=(p)\t((p) & ~+!P)~-!KMAKEPRI(fac, pri)\t((fac) | (pri))^.%A",
    "'~'(mNAME^-(lV^,*w*~'%-INTERNAL_NOPRI^&+hI~2!AMARK~-%Y~%%.FACILITIES << ^&-N-^.+lw ~%Xi^**tMc^(*tLint\tc_val;`$ CODE;``CODE ^(%,fnames[] =^)(D7@ \"alert\", ~))d",
    " $,~(!?cri~(!>CRI~,!=debug~'!>~%(v~+!?emer~(!?~%*v~,!?rr~(!=RR~.!;o~6!=info~'!<INFO~+!=none\", ~.(B~-!Dtice~'!c~&+D~+!Bpanic~7%ywarn~'!>~',=~/!Aing~8!D^&&O4-1 $",
    "^/)'P~,+TKERN\t(0<<3~.+oUSER\t(1~1!;MAIL\t(2~1!;DAEMON\t(3~1!=AUTH\t(4~1!;~&,K\t(5~1!=LPR\t\t(6~1!;NEWS\t(7~2&'UCP\t(8~1!;CRON\t(9~5%ePRIV\t(1~2&xFTP\t\t(1~&&y~",
    ".'TLOCAL0\t(1~2%n~%!>1\t(17~6!>2\t(18~6!>3\t(19~6!>4\t(20~6!>5\t(21~6!>6\t(22~6!>7\t(2~&(y~.(,~*/w\t2~.3RFAC~(2l3f8`~0!?~&2n~*2o~'!S) >> 3~S2D~%0Yfacil~90Yuth~(",
    "0XUTH~+-=authpriv~+!BPRIV~-1!o~(.(CRON~,1!aem~)!?~&,O~+!Bftp~'!>FTP~+!;ke~)/!KER~,!Vlp~(0zLP~,0zmail~'!<MAIL~-!=rk~,0zMARK~,0yews~(0wEWS~+!=security~6'<~&:N~'!?",
    "~&(U~+!Buse~(%|USE~,&!uuc~(&sUUC~,&tlocal0~(&Z~%-B~0!B1~,!B1~0!B2~,!B2~0!B3~,!B3~0!B4~,!B4~0!B5~,!B5~0!B6~,!B6~0!B7~,!B7~D4(~.-:MASK~%;D\t(1 <<~(;P~-21PTO~'!G~'",
    "!H~%!1+1)^&(th~4?DP^&,&J0~/?1ONS^-,)Q~%!9ODELAY^-,)E~&/h~)!;8~/?;WAIT^-,)(~&%DERRO^',(r^A*[Fcloselog^:*[Eopen~%!E~.Qcide^**1G^((J'~'LM~'02^1)D(etlo^'+qa~&!Nmask",
    "^7)7Q~%%L~&-,~(!Rpri^1,%Cmt^)-0]^)%ihibute__ ((__format__^'%HCntf^**7r)^:)K8~-%Vv~G%W__gnuc~(G; __ap~S%j0)~1Tf^k(W4^*+Pz~)TC~-!Dfloatn^(+O)~+%)LDBL^'(xm ||~%!4O",
    "UBLE~)TdS_TO_FLOAT128_ABI == 1`# ~5%R-ldb~%P'^l%:gysmacros^D%:hYSMACR^,+S?~1!< ^S)g)~1&e~(%c^-%3N~*%3DECL_TEMPL(r^&&og^&&I4proto)~'a1 \\`  ~'+a~%!J gnu_dev_##na",
    "me~&!R~+VK~*+:~%+w__;~6%NIMP~H%N^.-oL~&!1rn_inl~&!|~1%B~&&!~-!i~%[/~4&5^2)fk~0'KARE_MAJOR (~6'i)~6!WIN~R!WAKEDEV~:!Y~.0[EXTERN_INLINE~1&4FIN~5&3~*(L)~5!V~2&2~A!",
    "V~4&1~,!X~7.5~)dt~*!ZNEE^&),8EMENT^&(40# u~1!L~*';~5!C~*%M~9!e~))U~>!FIN~A!F~&'!~7!H~*(X~=!E~;%5~,(5~)'s~(.*major(dev)~).t~%!6 ~%!7~*!Kin~1!Kin~2!Kakedev(maj, m",
    "in~,%!~%!= ~*!>~M3Qtimeb~BdsTIMEB~03H~'!8^L+=N^A%['b~']6~,hR^&+:K^+%OZb^(%OW~'h>^/+9t`~.:5deprecated_msg__ (\"Use gettimeofday or clock_~'!9 instead\"^]%17timer",
    "^D%;,TIMER^2%;+~)!:~.(1^(+'X^<*qZi~%%K^9*q]~)%l^2)9yTFD~&%I_ABSTIME = ~%Ej^+(?H~2!H~1!5~/!s^&.y;_ON_^&(LT~%!y1~3!x~.!M~7!;^8)&8~+*b~'&a^)*f8__~%)a^'%i)~&)m^*%Eh",
    "^4*ev~3!ts~'*G~'C*uf~.!h,^5.a,~*(b^'*yIr~0xc~.!Fotmr^|%p*~&:P~/&J^E%IB~2&i~;!X~<'&~+xrvalu~>%M~B!jo~%!k^A%Jf~/&o^5%qN~0)e~3!Z^=%K(~(!Rg~3*N~|)i~H)i~'%e,~,%f^J%c",
    "=~:(Z~%&;~H(Mg~D(Mg~1(Mg~9(M~]4u^C+zk~(4_S~44uS^H+J;~+4x~&1K^6+_j~(8hms~)4f~'!S tms^*%IP~.!:s^+/37~,!;c~7!Tc^)%J-^),t*~'*g~)!Jimes~*:Lms^*&AJ~gy4^-*E7~=y6~9=mTY",
    "^(-s?^1(O]~/!?~,Ym~&!>_IFLAG\t(BRKINT | ISTRIP | ICRNL | IMAXBE~%!-XON~%!*ANY~*An~'!oO~&!oOPOST | ONLCR | XTABS~1!QL~&!QECHO~%%9AN~&%)SIG | IEXTEN | ECHOE|ECHOK",
    "~&!*CTL~1!sC~&!sCREAD | CS7 | PARENB | HUPC~2!XSPEED\t(B960^.'!, CTRL(x)\t(x&037~*a'CEOF\t\t~%!B'd')~)1u^.,(*~*/BCEOL\t\t~1!C~./j~&!I'\\0'^/)X&\tCERASE\t\t0177~",
    "*!8INTR~(%Uc~E%USTATUS~B%W~'!K~5%YKILL~(%Du'~+'8MIN\t^+%&hCQUIT\t\t03~*c;CSUSP~(!cz~,!cTIME\t^+%'eCD~,!Oy~,!OSTART~(!=q~.!=O~)!Ws~,!<LNEX~)!Wv~,!=DISCARD ~'!?o~",
    ",!?W~%(G~(!>w~,!>REPRINT~(!?r~,!?EOT\t~%*J~*.5CBRK~%!7L~*+.RPRNT\t~)!r~*!PFLUSH\t~)%n^*)]]`^**%m~&,9CHARS`cc_t\t~&0lchars[NCCS] = @`~%%W,~%%I~*!)RASE, ~'&Z, ~%)",
    "P, ~(%X,`~0*I, ~%+>,~&)Q,~&)E,~'(y,~'(g~%!+OP,~'(?,`~)&;, CMIN,~&)f, ~(+3,~1,($;`#~&P8~,&Z~K3sui^C%6;UI^1%67U^o/TW~'JMov~&JH~/!Iuio_lim^-)M(IOV^.)qxUIO_MAXIOV~,",
    "!B~'/&~&'G~*!G^<&Kj`^2*&Greadv^3%]Y~'>Mov~&>H~%!,~(Eg^&%tW~%P(wur^3&Utread^2-+W~7%Rwrite~|%S~1%S^5,,S^;/FD~7&/p~Z'b^-+*v^/*Ik~Z(%~1%r~[('~%M_~f%m^C-o|^2&'% (~&(",
    "*,~I&3^)&G[~,&;^<*Kk~&%/^(-it~L&L~<&/~&(?~S&0~K&1~&%1~T&2^3&0G~',=~('1~-!>~'*e~)%?^2&0Z^/)TN^,%Ia~>-[^.*ef~N+h~4'C~t-Z~_%r~h%s^4-p*^1&Co^C/TS~.(H^)+=!fp~c03~(!F",
    "^,%qs~N(R~6(J2~E(Idev~8*?~3%u^,&nW~[1j~'%r~T/]~A/_~2!O~&&-~1/wv2~q20~&*<~v20~1!N~/&K~'00~T&J~92H2~+%%~32K2~,'o~O2N~72F~K.!`^,,rA~>']~)!K~s./~-&*~?.2`~G:*~/!L~W&",
    "+^C)f.^>&Rsuio-^'*SI^S)e]user~CI]SER~1I_~%!7\t1`~,Mp^,)H;~'(,user_fpregs_~&!6^7&TF\tc^'+;1~2!=s~9!=ftw~8!=^&&U'^F.wXri~L!P^&-Xh^,'&w\t\tmxcsr~5!:r_^)+=Q~-!>st_s",
    "pace^&/tc~0!Bxmm~'!C64~3!Cpadding[24^'&.W~,(?~0(=~G&R15~K')14~L!P3~L!P2~K!Pb~L)1bx~L%T1~L!P0~K!P9~K!O8~K!Oa~L&Vc~L!Pd~L!Psi~L%'~K!Porig_~N&_~L/Mcs~J!Oe^)-R'~H'6",
    "~K%Vs~K%&fs_^(/Ao~F!Tg~P!Td~L'8~M&1~L&,~12V~%2J~72i\tre~&(l~%3H\t\tu_fpvali^,-Tc~27e\ti387~I%f\tu_t^(/:'~H!Td~P!Ts~N!Tstart^+00S~J!Wstack~2!X~.!O\t^&&BC~+('^,0.",
    "B^6/<K~(x:~9)&*\tu_ar~%3b~&[C~D&/__~%!X_wor^'*2u$~Q%R~-)x*~%*Istate~R%X~'!]~A%]~5!gmagic^(+VG~&,'comm ~(<5~I++ebugreg [^(&Gg~&gW~?AT~*2z~&A/~*1U~/!3t~/!3f~&4*~*",
    "!3~&3g~*!3oo~/!3~.!D~(>x [20~3>9fpx~CCW ~9CW ~9CW~(&E~3!=~'CW~m&b~)C9~*61~+-[~1'1~()t~)!<~*C)~0!=~(C!56~DC!~*4y~&?(~*!3c~/!3d~/!3~&;K~+!D~/!3b~.'Hea~.!gxd~.'7xe",
    "~/!3f~/!3g~.!3~%;v~0%!e~/(lx~/(l~*:w~+&D~/!Ws~|7,~67,^1*B[\t~,6r~5!Bd~=!Bs~;!B~.68~9!E~)6&~*!<~>5l~C5I~I4<~3%g~A3:~)(L~12t^0%MaPAGE^'*5X\t12~/!:IZE\t^**7e~)!N)~",
    ".!K^&-mh(~~(~)!Y-1^+'WkNBPG\t\t\t~)!A~)!<UPAGES\t^+%*H^&*nqTEXT_START_ADDR\t(u.~*)!)~.!PSTACK~%U:~.!O~%). + u.~'*) *~%%Y^N%O+utsna^D,kT~%TqTSNAM^1'Ky~)!:^Z,kc~)",
    "%U^,&K_~(%&SY~&!+LENGTH^+'Ky~6!E~*!;~(!U^.*pk~)!CNODE~>%(~/!F~J%)RELEAS~;%(~.!E~J%'VERSION~:%'~.!E~J%'MACHIN~;&+~.!E~8%'~*3v~&)O^*/e&char sy~%!9[~7)7];`~+!Qnode",
    "~.!R~/(d~.!Sreleas~+!R~.(5];~+!P^'/nU[~7'a~.%(machin~+%(~.'2]^&%H6~*'9DOMAI~)(U- 0^4/Ia~)%-domain~.&g~-!i]^+/aS^)0TX~H!Z~,e6~%Dv^4%rv~))oSYS_NMLN ~:)a^-,RA^&,R<",
    "~.)t ^0/%!^],%E^)&YH^/-GK^)&h1~D!kxatt~CfoXATT~1fp~'!8^S'/*^4-Es~,xEKERNEL~'%/DEFS^*-'=~&!7^'+pR^-*C)~,!=\t~,!0~)!ZREPLACE =^+,E:~-!=\t~-!1~,9i^0%|5~%'a^4+_A^5+",
    "ol^.,o<^(&y=^&%Tl^6&|:~'mk\t^.%rA~9ml^,/NC~+&!l~Z&%~|&&~.&&^-&P7~)&%~0qr~-%s~5%k~)&0~z%s^+'pL~R'x\t~='n~=%i^:/T,~/%kl~W%l~w%m~/%lfg~H)U~1)O\t ~y'Qis~='Q~'!1list",
    "~['6^,%1F~0%P~|%Q~9%Q~0(g~+%P~+(h~|%F~&Tqmove~N+x^:%kal~e!u~,1Q~-!t~<+z^O%Zug^<.YZ~)9%G^2.YWG^C.YX^R/Tr^N'>!~'KZG^-.YWG^B.YXgr^0/rzsg^2.YXg^-/rz~&!8*sg_adm~0!6^",
    ",/ry^-%;>^).X*g^D.X*g^C.WSgr^&-)h~O!P^Q.X*~%!as~*%6^4.QY~>!df~*!d^H.X*g^3.X*~%!r__g^_.X*g^/.X*~'!|^b.X*~%!l^h.X*g^D.X*~2&-^_.X*~R&6^9.X*g^F.X*~5&9^N.V&~i&-f~,&-",
    "^8.X*~|&'^M.X*~C5=nfs/n~%MI^0&pAn~4MEscsi~%!(~8[y~+M8CSI~&!(~,M8~*!8^=-Oc~*5JTEST_UNI^&*koY~'+X0x^+,COREZERO~%!I^+%wi^-(9|REQUEST_SENSE~,!G^)&k| FORMAT~3!m4~+!m",
    "AD_BLOCK^&+7nS~(!G5~,!GSSIGN~&!KS~*!m7~.!m6^0%yp^-.TB^&*lP6~2!Ga~)!GSEEK~5!mb~.%8^'(I3~-!Gf~/%8FILEMAR~+&*^+,PFSPACE ~2%8^+*KIINQUIRY~2!G~*PqRECOVER_BUFFERED^&0",
    "AH0x1~*(1MODE_SELEC~.(U1~,(1SERVE~2%86~+!G~%[>~2!G~*(UCOP~0&'~&!G~*(U^&%mX~3!G9~0&*N~.!L0x1~+(|~%j5STOP~/!G~,(|CEIVE_DIAGNOSTIC~'!Gc~+)mND~/!D~&!Gd~)!GALLOW_MED",
    "IUM^&(VYAL~%!Ge~*.!SET^'-iU~.%_2~/,gCAPACITY~,!G~-,gD_10~1'A2~0,A~0!H0x2~/,A~4!mb~/!mVERIFY~-!Ge~)!G~0!A~)!G~*,gSEARCH_HIGH~-!G30~0!GEQUAL~-!G1~0!GL~0'f32~-(1~+",
    "0H~*!G~*1APRE_FETCH~/&*3~/(UPOSITION~6!GSYNCHRONIZE_CACHE~(!G~*(|^',e:~%!*~-!G6~.%8DEFECT~&.i~(!G~*-V~'+%SCAN~.&*~*)mCOMPAR~2.H39~-.H~1)F 0x3a~/)m~&0M~-!G~/2V~0",
    "!F 0x3~*-VUPDATE~&4[~-!Gd~.!mLONG~0&*e~/%]~0!H0x3~*+*CHANGE^&&In~*)'^&.g>~-!mSAM~/0O41~.%]TOC~0'f4~**]LOG~23G 0x4c~/!G~/1f 0x4d~449~+.N0x5~149~/.p0x5~149~2!G7~3",
    "3H~,!J0x5~*)mPERSISTENT_~(%DIN 0x5e~<!GOUT 0x5~*(VMOVE~'3!~-%_a~0222 ~0(2a~1222~1!Ga~51g~*!N0xae~41A~+!s0xb~61A~,!mb~41A~,%d0xb2~.&NE^&&TM_^&&%d~&!G8~.6hVOLUME_",
    "TAG~*!m6~3,g_~+&x0xea~.AmGOOD~/'h~/AlCHECK_COND~+28~-Ak~)!?_~+!u^-(WtBUSY~4%5^,,n-TERMEDIATE~)!n~-?v~-!FC~'!H~-?u~&*wA~%%ZCONFLICT 0x0c~,2TMAND^&.;:NATED~0?)^&*",
    "fPFULL~-&%14~+:L~%(k^&+Sj~+!G3e~.(-NO~4=!~-Eu~%?uED_ERROR~2(+NO~.F]~1(*~'5J~*!f~0F:HARDWARE~,!G~.(KLLEGAL_~'G2~(!E~*.;~%H8ATTEN~-*(~*+ADATA_PROT~+2K~-FVBLANK_~%",
    "*u~,&B8~.6yABOR~&(f~(!E~*)X~'!?_~')=~(!E~*6u~'-:^(,ok~(!E~+3TIS~18W0x0~')1~*K.YPE_DI~,)X~.)2~%!ETAPE~.!E1~.!EPROCESS~+(E3~.!EWORM~8-8~%!EROM~/*f5~.!ESCANNE~,)x6",
    "~.!EM~./b^-':A~'!F~&*l~&9%R~.(j~%!EENCLOSURE\t~1'|~%!DNO_LU~,>Y7^)/Q=~'R7ccs_modesel_hea^*+XO^.,D-_r1;~3!:medi^(1WA~0!U2~4!:block_desc^'(eW~4!Idensity~4!>number",
    "_~%!ns_hi^0/?6~3!Imed~C!qlo~6&A3~:&A~&&;~8%T~-!H~7%S~-!Hl^,0:U~13FCOMPLETE~1,v^(.;i_MESSAGE~1,v   ~+!IODIFY~%Da_PO~%5>~1!y~-!USDT~,C1~5.,~-!U~)!,IDENT~)De~-3L~-",
    "!UW~9%1~*.qSAVE~(&+~+U*~,;(STOR~.!H~-!iDISCONN~-Bc~/8tITIATOR~.6%5~.2q~2%x~*/]~'(U_REJ~)%6~-4JN~.Q.~(!E~*/[MSG_PARITY~*%U0x0~*HlLINKED_CM~+*<~-4n~'!EFLG~1!Ib~,<",
    "-_DEVICE~%BzT~'%6c`~0'4E_~'9?Y~0Wj~(E&~+!D ^-'Gr ^&)sJ^'+%s~'?I^&/3;~(97EAD_OF~-!F0x2~*+.ORD~%:i~/!E2~/6M~%a0^&,w?GET_IDLU~%En382~7!KTAGGED^'(o_~&!O3~;!L^'&DY~&",
    "!M4~6!zPROBE_HOS~%Fq385~:%tBUS_NUMB~%5c5386~7e,~)dR_^A,z]~'d=^/,z_~/!9~5%c~%EI~'1C^,%G]~,',~.dj\t2~4!IBENCHMARK~)!t~5(!SYNC\t\t\t4~5!?~%ZbUNIT\t^*'QQ~.!EOP~'!D6",
    "~4!DDOORLOCK\t\t~%(*0~8!H~&TD~'!J1~=(Q^<'Vn~/i*G~2i(G~=|!~(!P~DzH`^1/B> sg^&&*v^+-Xx iov^)%lH~'mIiov_len;`$~)!V^&+se~4!v_hdr^)-<Yinterface_^)(0t dxfer_^&.E:ion^",
    "-%Q'~%8gcmd~&%>~1<nx_sb~1!>^*%]8~&%m^60z+~&%F~'!c~'&j~%!7p~%:g~.%8* cm^/&%c~'!;sb^1&%z ^'(MA~1!;^)%XR~%yRack~'',~'%Nusr^)(28~-%5^*(2|~/'&asked_~9!Csg~9!?~&'b_wr",
    "~7'ehost~4!d~*!Fdriver^.(4o resid~2(>^'.XJ~1!<^&1+7$~**T^//HUSG_DXFER_NONE -1~2!<TO_DEV -2~2!>FROM~&!A3~5!]~*!D4~066G_FLAG_^'&odIO 1~1!?LUN_INHIBIT 2~2!bNO~&%8^",
    "(,6|~/%.INFO_OK~%PQ\t0x1~3!?\t0x0~1!:~%MO~%!U~1!>~)&(~(%!6~1!G^).L2IO ~5%.~-!C2~1!CMIXED~'!B4~,IAsg_~&79d^&%Pb~)*q^)(;P channel;~(!C~'!T~(!Clun~.!>^&,_x^-(e<h_c",
    "md_per_~(!R~++i^'.aYdepth~)!qunused[^)2-&~22*req^&1>;^+%1*req_^+%r2~%!7orphan~+!4~&,6owne^,%1=proble^+2)-~+/q~4/s~9-Y~)!h~&&>~'-U~(&)~'-W~.++EMULATED~(<v2203~/!",
    "GSET_TRANSFORM~&!G~,XEG~%=8~/!E5~1!i~'d'D_SIZE~%!I75~0!l~3!H2`~1%:~&:.D~&!D6~3&(FORCE~%bODMA~&!K9~0!l~-!Ba~1'>~*!nPACK~)%=b~0!n~-!Bc~1&&NUM_WAITING~&!Gd~3&KG_TA",
    "BLE~*&sF~1!H^(%X9NU~&(38~/'>~%':~&G:~%!C4~7!B_NOTHIN^+'p[~/!D~&H1~,At~-!CBUS~,Ak~-!?HOST\t3~/2=O~&%c5~1&N~']X~&&z~&!I6~2(WKEEP_ORPHAN~&!H7~0!o~1!F8~0'BATTER_SZ ",
    "(8 * 4096^0'UW~%5t^&&x+_RETRIES 1~1!C~0+.~6!C~)*<~0!C~-&!~0!A~.-(~-&2~.%XMAX~&K. 16~-!<BIG~%t:~5!y~;AX S~(!-;~6!Hvec~'!Hvec~4!H~(5TS~)!.;~<3nS~*!/~31rMAX~'h(16~",
    ",6hheader`~&6h~*3]~%B(~(!5reply~.!6~)4,~*!Hsul^'/y?~.Auwelve_byte:1~4!Darge~(?!:5~3!F~+?E:8~3!D~-?C~5!Fother^&%Uk:10~&'F~1Zjsense^'%8'[~,'Z];`~)Zt~15O^&,E:\t\t~",
    "%5,1~15M~-!C~34W~([hQ~%!F70~0%/~)!D~%<G271~3%T^&(!X~&!De~-!BNEXT~%V1LEN~&!E83~8/'~'&& (60*HZ)~0.!~*%Y0~1/HUNDERRUN~%Ac 0`~8Mugtt^?-h?GTT^.-h9~&!4^J.X2^+0O6~*,kt",
    "tyb^>,I/g^-.VM^+%>[ttyb^&%Peram^9-qls~/!f^/%Gs~;!l^D/tE^&(Wn^4/5-~&!;^6/5.~'(:^M0Rq~.!nwait~1%E~&!8^B%l%fpu_contro^=,Kv _FPU_CONTRO~-X9~-!:^(&Sz~?!!^A)PL~%%!MAS",
    "K_IM~/gQ~*!>DM~/f<~*!>ZM~/em~*!>OM~/dU~*!>UM^/%=9~*!>PM~'bF~/%w~(hV 0x30~/!_^&'f4~'c*~/!?^&+z3~&d5~0!|RC_NEARE~%E,0~1!?DOW~%qp0x40~2!B^(/r60x8~3!BZERO~&!BC^,-g'",
    "~&!C~'9n 0xF0C0~.4!~&&M~&1_~&jB7f~0!CIEEE~)kO~%!C^1,PH~%U,~*+H_t^3'l1mod~%!.__HI__)^.&q.~.%BGETCW(cw) __asm__ __^(2SB__ (\"fnstcw %0\" : \"=m\" (*&cw^+&.-~&(e~B",
    "!old~)!n: \"~+!o~)1:~0&S~+!3;^I%wYieee754~=ezIEEE754~,.a~)!6 ^J'CUe^)-)W~04N^&.=:~'%Z_floa^*14:~%!1 f^(&&5~&3o^'&ES@`#if\t__BYTE_~%kO == _~%B1ENDIAN`^.0ujnegati",
    "v~%=X~.!=exponent:8~0!=mantissa:23^,-GB~3%GLITTLE~6%J~-!m~I%K~,&*^)&&m    $~%'U~|';~D%lquiet_nan~2!Y~*&h2~i'W2~L%L~Z'u_n~&V;$^+'q2~(,iFLOAT_BIAS\t^'%)&~.,2doubl",
    "e~),3~&!2 d~|(t~2&k11;`~7'i0:20~8(w1:3~O(x# ~%!I~&'6WORD~F&<~<%[~-&>~I&w~/&;^'-/7~<!H~u%d^1&1d~|.r~A)y~;-H~9&t19~A*<^((XN~_)o~2%5~E/=~|*2~?*2~x&'~;*N~<1K~&Ba~(1",
    "L3f~.1M854_long~01Rlong~|1W~<'(5~1!>mpty:16~:(>~:([~|1qN~K&9~;&r~f&T~&+z~U+y~2!?~c&?~|2I~|*kon~3!o~D=q0:3~|99~|+D~K+D0~L'6~5'j~n+w~e%[~|,P~;4K854^&%U=~+4P ~%4P^",
    "['o)acct^B&H2ACC^1*..~&!7~.a+^7'WK^9)?8e^3-S8^6)Jh~/N!~(%Z~%%UCOMM~%jw~&!!^,.U816_t comp^,.inac^,26Jac^)0g:~)!Vac^()?'~,!6g~2!6t^&%JQ^));Yac_b^('p-~&%G~%!s~2!6s",
    "~2!6e~2!6^'&1|~*!4^&3,_~*!3rw~/!Uinflt~/!7aj~1!7swaps~0&5exit^(&fX~('Ccomm[~)(9+^&-eU~(!Apad[1^(&q?~,(1_v3~5(4~(!3^'&UO~D'y~,%g~,!;u^/)DQ~.(v~(!6p~3!6~3!7~))2~&",
    "Tk~6(c~G)E~|)1~+)1~6(q~((Y^-(1XAFOR^'-7a1^'-DySU~&!32~'!3COR^'-HS^'-<NAXS^',Li^(-8SA^&0UU=~'dD^)&Wr ~=:D^)&X(~%%vBYTE~&!L^&0Vo^.'pb~1!G^+0Ve~)/uHZ~%3Z1^&%42~+lw",
    "acc^51kV^S&A<~63Yuxv^C(L4AUXV~13Z~%!7~._'elf~2m!cdef^4&AOhwcap^7)f,~''(^1&o| getauxval^6-='type^..Id~X'?bi~'6%`~96=~D!m^(&qT~B7n~%w>RE^1(|L~*!;\t~-wyDR^&*Q7ADDR",
    "^+%)(DR_LA~'!93~-!R^'%oJ6~,!7~'p* 7~.hsDR_TRAP0\t(0x1)~0!:1\t(0x2~1!:2\t(0x4~1!:3\t(0x8)~/%[EP\t~%!S000~-!VSWITCH~%!W0^((%U~.%l~(r5SHIFT 1~4&K^&%+y 4~-!]RW_EXEC",
    "UTE\t(0x~.%FRW^'.b+~1&oRW_READ\t(0x3~.&?LEN_1 ~1!rLEN_2 ~1'1LEN_4 (0xC)^3'L=~)0_~'!N8 ~&']^,*&z~.'-LOCAL^(*H)~&'2~.*0GLOB~0!F1~,!E~(!=IZE^(&Az2~:%2^&%qD(0x55)~:",
    "%6~%!J(0xAA)~*,j~;&k~()/~)rF(0xF~'!!0000FC00^&++1~.43~7!b~'!U^1-ai~)&ISLOW~'te(0x1~/+T~'&H~*!I(~%v3^N&yidir^B(HeDIR^0&yZ~%!6^F%(ndire~&Df~)!i^&%Pg~%!*nt~M&(errn",
    "o^-%%i~'!5~F2ifa^H.ozFA^6.o|~*!;^C)eb~%%K~+%C>^>(Hu~(!M^'._s~-KN^).5E~/!9^&1y:f^1)]K;~7%*mar^*.t4~(!8^-.V?i^1(I:^))b>^.)_md^2&Y9^(.OA^l*6p^'.x_~,+8^(.xr~E!esuid",
    "~B8WFSUID~08T~'!8^g*&c^.&qa~%%f^01MC^9*0ltfs^32J6~f(*gmon^P,ljGMO^1.SK~&!7^U/l6~&!!~'KG__bb^)';p\t\t\tzero^)'Dq~*+7\t\t*~(D7;~*!Q*cou^'-UJ~'!5n~*!5~+%0\t\t*next",
    "~*!z~-B%\t*^'2Ywe^'':1^.&Z=__bb *__bb_hea~%h4~*2UHISTCOUNTER\t^.%ZT~1!KFRACTION\t2~?(N~(!XASH~6!X~)H'RCDENSITY\t3~1!AMINARCS\t\t50~-%&ARCINDEX\t~-'+~2%,MAX~&!g^",
    "&)!q20)~))3to~'!,@`~.!m\tselfpc;`\t~&(f^'%d_~*%Dlink~'Lq~**.rawarc~2!traw_from~%!x~2!>~/%;raw^(%f!$~-(| ROUNDDOWN(x,y)\t(((x)/(y))*^&-xT~,!KUP~)!I(x)+(y)-1~,!Q~",
    "+&2gmon^&0bq@~&%T ^''Q,te~,&+~%*8\t*k~('3~.&E~&!:^&'?G~*'O*froms~1!Q~%!9~'!P~/(b\t*to~2!Uto~(!S~&'Ltolimi~2%Vlow~3(8high~3!:tex~(&,~/!Tashfr^&0?Y~)%Clog_~.!<~.(",
    "u\t~%1'PROF_ON^+(DA~*!:BUSY^+(EC~*!<^&)*t2~4!qFF\t3~.%5~%!;STATE~,%4~%!9~%/H~,%1~%!9FROMS~,%-~%!9TOS^+)IB~&!7GMON^&11u4~9<%void __monstartup~0Oi__~%(Y^0.p>__~&(",
    "Z^20:E~%!y~h!w~/%wmcleanup^m)P4gmon_ou^=0D=~-;+~%)HOU~1gV~*!;^D0DD~%!QMAGIC\t\"gm^+0Cg ~%!=^'%[e\t^,%WH~%!<SHOBJ~)!C0x1f~'jF^2(BI~+0;_hdr^.&t2^&/5M[^&'sM^/';V~-",
    "!8spare[3 * ~&!:^-%h;~-]S~%%sTAG^&(bTHIST^&-T;~-!?CG_ARC^&'4j~-!<BB~&,p^(3)f~&!=Record_Tag;~/&Mist~2&Rlow_pc^)3tQ~&CF)~,&Khigh~B!Gst_siz~/'Fprof_rat~/!:dimen^&1",
    "A7~.!7_abbrev~(']~,&8cg_arc_r~%&Y~.&=from~?%sself~?!G~%5F[~*)0^Z/)t^D/)q^2/)n^N/)k~&!!~+DRioperm~6_Nfrom^6/&)num^5(h*~'a1urn_o^;.chiop^)*=Ilevel^/(k<^+)5a^&.;, ",
    "&&~*!/>= 2``static _^()/k^-%[(`inb~+&P^,1-!port)^.'c8~%)E_v^'1z0^5%HGinb %w1,%0\":\"=a\" (_v):\"Nd\" (~'!|);`  ^'3Q|_v;`$~D%w_p~|%y\\noutb %%al,~$0x8~j&2~)%u`in",
    "w~K&5~&!C~A&6w~p(4~-&%~M(9~+!C~H&+~z(>~&&6l~K&4~E&.l~p(6~'%u~M(0~(%w~D%v~q()void`~%!w(~/.*^('AL~?&=~7&*~&%vb0,%w1\": :\"~%%t~&!|), ~0%z~<%m~-'r~t%o~3'x~0&(`\t\t",
    "\t~L&+~801~d&.w %w~I'z~=%s~9+r~m%u~v((l~1d_~d&(l %~g+x~./o~r%m~s'qins~<<<,^//&7~4>|^'(fx~;&:cld ; rep ; insb\":\"=D~%%raddr), \"=c~%!2~'!r\t\t\t:\"~+&;, \"0~-!S",
    "1~+!R~>&Yw~|&Y~9&Yw~|&Y~4&Yl~|&Y~9&Yl~|&Y~4-x~?+s^3/.5~(G_~f&j~%%O\":\"=S~|&k~0&kw~|&k~H&kw~|&k~5&kl~|&k~H&kl~w&k^4'B;~KR'k~CuIK~1uFK~'uC~*!L^&.Z7TYP^&)9F^)'vW~",
    "-!;\t^,.<p__undef~0!a~'&I~0|wkd^.*oh~5!c^()T!~7!:~>%A~K'Z^7*5?~-UcK^&*5/~.Uf~&!8\t1~LUg~+T?klo^,/-+^&)c&^+'IR^)/(-^//;v~XXImoun^F+WOMOUN~1dh~'!8~/XU^23%s^7%!.^4",
    "0H,^)&[J^8&21~)*Ihas_~'!H^(3_c~+!6 (\"~&++~'&a\")^,)ky~/!?^3(qn~'&f^&'HbSIZ^&)Gw\t^+&+s~*!>\t(1<<~/!N~&ri^''ub^')/zMS_RDONLY` ~*!/^.'up~)!:\t~*!Q~*!e^&358~&!e~&",
    "!/^..;y~)!:\t~*!Q~,!eDEV~(!dDEV^..;;~(!9\t~)!N~,!aEXEC~(!b^'.lj8~/!cEXEC\t~*!Q~*!e^('=oOUS~&!j~+!4^/.5n~.!A\t~/!d~+'rE~%+S~''s~&!0^/./3~*!<\t~+!U~*!jMANDLOCK~&!",
    "k~(!1 = 6~.'<~(!=\t~,!X~*!nDIRSYN~''D~'!0 = 12~.'G~'!=\t~+!V~-)WYM^&/ti~))]~(!4 = 256~0)f~(!B\t~/!e~,!|A^')Z.~*!0 = 102~0)w~%!>\t~+!W~-*aIR~-!o~(!3 = 204~0*.~(!",
    "B\t~.!c~*!xBIN~',CBIND = 409~.&YBIND\t\t~(!O~+).OV~'%UMOVE = 819~.)q^&/yZ~(!O~,*X~'(uR~%,:1638~.'*REC~%!]R~.,9ILE~(+9~&!/~%+876~.&t~&!>\t~*!U~*!iPOSIXACL~&!k~(!",
    "1^))aU~.&w~(!C\t~,!_~*!sUNBINDABL~'',~*!3~)!w7~-!w~*!E\t~.!f~+%sRIV^&(+.~*!0~)!u~.&e~'!B\t~+!Z~+'RLA~((s~%!.~)!k9~.'RLAV~%!i~&!T~+!gHARE~'*C~&!/~(!i20~.!i~%!A\t",
    "~*!W~,)hL~+,+~(!1~)!o~/4F~'!C\t~,!_~*!sKERN~+1>~)!2~)!u~.+P~)!D\t~-!c~*!wI~(y=~&!w~)!2 = ~'!x3~-!x~)!E\t~-!d~+'YTRICT~+&o~+!4~)%x~.,k~+!F\t~/!i~*%'LAZY~*%!~(!1~",
    ")!y5~-!y~(!C\t~,!_~*!sACTI~(*B~&!/~(!o3~.)U~&!A\t~*!W~,1bUSER~(1[^'.O:1^/0UD~)!?\t~*!V^&.-C~**IMT_MASK~-*/~'!7 (~):U|~.7W|~+6,|~-)7^(,1D |~+&|~&<4~+2<GC_VAL~-2-",
    "~&!6 0xc0ed^-0-/~'!BMSK ^&._%^(&oK~*!|BLKROSET~+=t~&!4   _IO(0x12, 93)~-!UG~0!UG~0!U4~-!URPAR~.!V~%!5~-!V5~,!VGET^-(L_~*!6~,!W6~,!WFLSBUF~,!V~&!5~-%47~-%jA~0&xA",
    "~1&x8~.!U~0&xA~1&x9~-%g~1%2~&!5~+!V^&%PT~,!VG~1!VG~/!V1~,!VSECT~/%4~'!6~,!W2~0!WG~2!WG~.!W~-)wSSZ~0!V~%!5~-%k~-)xB~1!VB~*!VR~'!W12,^&')+~/!aS~1!a~('aW~(!a3~3!a~",
    "'*P64~3*h64~-%I4~)!f~*GN  MN^'&nB~/G<~)!:~)!-~'!Q^).U|2~.!R~'!;~*!.~'!TEXPIRE~/Fx~*!;~*!.`  U~&LeNO~)BU^*&R:~0!?~/!3^/0E*FS~&!CCL~&Gg^+':n^(0E7~*!Q~&!O^&(C7~&JM",
    "~1!Q~3!O~'J9~/!O2~6!ODEV~1%S4~6!O~+&+^30F2~+!O_~&8=~.!O^+&d<~,&S~(;e~-%%~5!O~(F4~-!O1~5!O~,9s^40Fk~.')~(FC ^40FM~+!OIDMAP~,'U1~;&'~*I4^*/?=0~+T,~,&)IZE_VER0^*/c",
    "iount_attr^)+B6^&1Gc^'2.P;~1!8cl^.+>Opropag^*'-w~(!;userns_fd^5(b|~4%h    32~-+pVE~'V)F_^)/Um~7+p~+!OAUTO~%!/S~6+p~+!OEMPTY_PATH~6+p~)!OT~4%Q~-*?~+!O~3%Q2~7!O~3",
    "%Q4~5!OSET_^)2R;^30LF~+!OBENEATH~-,D2^.'/sFSPICK~10P~4(.~'!O~''&~*1a~3(.~'!ONO~*')~8/|~'!O~+'&~1/|~*,GFSOPEN~(&)~&5K fsconfig_comman^&35oFS^&.K|~%'WFL^)'fQ^&.ti",
    "~(eo~2!J~1!5~0!sSTRI^''op~&6e~5!s~'!J~3!7~0!wBINA^'('J~&7/~5!w~'!J~3!7~0!w~+'n^&.uL~5!w~%!J~1!5~4!s~&(q~'8H~9!s~'!J~7!;~1(g^*'[k^&.v!~6(gD~0!3~,!oCMD^((XT~&!o6~",
    "4!o~+!J~3!7~0!wRE^(.V:^'4J/~6!x~,!K~8!<~6&&_EXC^(.vs~;&'~&!K~8!<`^3*pl~/-J ~><(~%!OTREE_CLON~%'l1~6!A~&!tO~*.N^<%nn~%7+^1(;Apecial^53tMdir^,/:q~(!:fs~&l|~4trrwf",
    "lag~,!Z~(uVdata^92oU~B%n~>!a2~>&Ri^8*=9^-([2^54cYs^(0Rk^3%q-~;!s~'&L~'!Q^;%qq ^43V_^A*?<move_~.%2rom^4%rL~%!;^)0Eq^01'rto~4!Xto~4!V~-%x~A'&~&6,~;''cm~1%Gkey^>(f",
    "9~&!aaux~8*7fspi^*0nZ^7%ua~7)K^9%wQopen_tree~;%'^(%oO~F%+`~3.t_^/2-B~N&7^((_9~0Cx *__u^&2Vd^)(EPu^&(Y/^g%xamt^85W[~.x(T^2*'.~&!7^'%&T^A&IH^6'-Pmto^*(Tw^*%+7mt^'",
    ",1a ~(!2^)'Ts$;~*%UIOT_mtop^3%Tg~,!!\\`~%R4T (_IOTS (~%%8), 1, ~'!5in~'!30,^//jLT^''Aw~+!5FSF\t1~,!GBSF^+'A3MTFSR^+'_dMTBSR^+'_UMTWEOF^+'_EMTREW^+'_4MTOFFL\t^+(",
    "/eTNOP\t8~-!UTEN 9~.%TM~,yw~%%zM  ^+('oMTEOM\t1~-IFT^&(A_13~-&rAS1  ^,(CiTRAS2\t1~-&/AS3 ^-'>LMTSETBLK ~,G|TSET^'%vF 2~,%]SEEK\t2~,'bTELL\t23~/!cRV^'(7c24~,%:FS",
    "S\t2~,%cBSS\t2~,'pWSM\t27~,!X~%wb 2~,'t^&'cu 2~,'vLOAD  30~/!KAD~-g4TCOMPRES~%e|32~.&1~%cA3~,&GMK~&cU34~--.get^.&gx~',w^*06P~,!9^''Yj```~1!>dsreg~2!Vgstat~2!:er",
    "~%!R~%!;__daddr_~%!<~%3:^''y7~-!<blk^)46S~/._get~Q.along), 7~&.M~*.S~,)-_ISUNKNOW^/22W~&!>QIC02^/3*!~%!<WT5150~%!=3~.!=ARCHIVE_5945L2^.3*;~%!ECMSJ50~&!c5~.!>TDC",
    "361~&!>6~6%&VP60I\t^-'uq~-!D2150L^.3+8~.!D06~&!D9~5!DSC499\t0x0A~3'0_ALL_FEATURES\t0x0F~1'<099EEN24\t^-(4;~&&YEAC_MT2ST\t\t0x12~/(ZEVEREX_FT40A\t^-(Gt~%!CDDS1\t",
    "\t0x51~1!;~%(x5~/!TSCSI~%!U71~2!<~%!V72~1*5FTAPE_~(*;^(/tX~4!HFLAG\t~*!F~*.G_tape_info~2.N^24?|t^)3g%^,&c>MT_~%%4INFO~%,Z^)-Ao^*0wv@~,,>,\t\t\"Unknown^&-AVof ta",
    "pe device\"$,~1!a~%)Q,\t\t\"Generic QIC-02~&![^&(aTer\"$,~0!]~&-(,\t\t\"Wangtek ~%!3~%!f150~4%:~.-B,\t\"Archive ~%!4-2~%!X~0!Y~'-V,\t\t\"CMS Jumbo 500~5!Q~'-k,\t",
    "\t\"Tandberg TDC ~%!8~%%n24~<%m~%.0~+%lVP60i~&!_02~<!_~%.J~,!_iper ~%!9~5&!~-.e~2!]06~>!]~%/%~+![SC-499~%%|36 ^'':!l~5)7~2/I, ~4*', all ^(%<E~6*,~(/p,~+*0099-ee",
    "n24, 60MB~4'_~*04,\t\"Teac MT-2ST 155mb data cassette^&'RR\"$,~.!j~,0Y,\t\"Everex ~&!2~%&B4~5+Z~%0A~,,tSCSI-1~%&p~5(D~%0Y~1!U2~5!U0, NULL$~//)  $`~-:tpos~5:t~;9",
    "3pos~H93_^&(-F~'93~.%I~&Mg~61v~6<Iifc~+!:^3%NKirqnr~9!Bdma~;!Bport^93V]^'5qt~.!Bhave_dens:^0(<r~%!=bsf~6!<fsr~8!V~7!<eod~6!<seek~6!=tell~6!=ras1~9!=2~9!=3~6!=qf",
    "a^(']x~*!=pad1:5~+79^)4|d10]~6++~**9~H+2~0AC2~)L'~(L93~)!5~'!G^&+B(~'%I\tMTIOCTOP\t_IOW('m'~%L]~+NL)~.!OGET\t_IOR~&!O2~+!Oget~/!PPOS~+!P3~+!Ppos~2%VGET~&cO~+!Y4",
    "~+!Y~*'E~/%7S~,!_~'&A5~7!_`~-D[GMT_EOF^(0==~)!!((x) &^+1:()~-!WBOT~:!W4~5!WE~<!W2~5!WSM~1!V~*!W1~7%5D~:%5^'0:.~/!WWR_PR~/%p~*!W~'&I)~.'[ONLINE~.%9~*!X1~4%6D_625",
    "0~8!W~'%n~0!W160~:!W4~5!W8~0!V~,!W2~(&I~.!YR_OPEN~7')~'%8~/')IM_REP_~-!Z~,!X1~(%8~-D0ST_BLK~%|i^&)bt0~7!B^'(*Pf~%!!~/!H~'SW~'!i24~7!C~)!j~&(e~0%XSOFTERR~7%X~(!B",
    "~+%X~1&F^'/Xx\t\t0xf^1%*y~&&JOOLEA~&!G1~6!GSET~)!J0x3~6!ICLEAR~+!K4~6!K^&(bxTHRESHOLD\t~*.3~1'KF~((=\t0x5~:!I~(&b0x60~6'r~&WU~&%KS^-(0b~&!DASYNC~*!C2~/!C^&/dCHE",
    "AD\t0x~2)JBUGGIN~&K|~/!ATWO_FM\t^.3WC~&!>FAST_~&[V^-(Gz~'%eUTO_^((?T4~4&u~)&)8~1(_AN_BSR~')P~/!ANO_BLKLIM~%&h0~4!cPARTI~%(& ^1'df~'*;CSI2LOGIC^((wB~%4k~1+U~%*>^",
    ")5V.~'-Z~3&H~'-=\t(~1)U |~)4))~3!_~+[G~8!d2~9!d~)_y~8!b3~11l~&!LHPLOAD^&-=GSET ^*(80^)0Zf~%RC^,0Zd~%!4\t\"/dev/~%FS^U0/2ci^C0/0CI~0k&~%!6~/k%^'0.oci.^93+8^80SE^",
    "C,c?PERM^+%kL~,!8^K%kL^j&E1^+*NQ^5&D|^I&Dz~Xp8pid^6+AX~*'YPIDFD^/1!m^A4mr^&(8S^-)J'~&!n^)-N+O~)!.~2t5~%%h^'1),^(,ed^'3b&~C|a~4!rget^*,S8~%!6~(wx^&(*S^'3?>~W%,se",
    "nd_signal~5%2sig, ~)'; ^+5Y6~'PP~A%G~L)Nlatform/x86^D0tzLATFORM_X86~1.r~.!?^E%qkboo~4*?~.%g~:!C~E.H^-(')cpuid_~'![ *^&'(.get_~-!<_leaf^.&6C^7+eOpure));^1&'[__ _",
    "Bool`x86_cpu_presen^2&yrindex)^+5dq~8&!ptr = ~<&,~%%u(~'!z /^&(9K^(&U.~-&H *^&)E;~1*vreg~&&g=~(%n &~?!o - 1~4!rbit~%!mreg~>!k~(!g~&!O/= ~9!O~%RE^(&FN_ptr->~&'-a",
    "rray[~%!h^&0nw <<~&%S^5&,T~1(tactive~<(sif~*(-== ~(!_IB^'+iH~1!=SHSTK~&*d~'&-~(!=cet~)%A~(%3~%&V~|*+~|*+~|*+~P*+~&'t~B*,~)23CPU~(gc_PRESENT(^&'CW~1/0~(!4^&+h=)~",
    "6!k^&%gf~/!j~()a~1!i~Y:]roc^7,Xh~/5,ROCF^1+nq~(!9^-(2J^F'+&^1+Xc^;%/W^&*g=>~/%,~&5>~'&;>~9!?-id^<+HXelf^),sG^,0ZD^,,sE~)!5^('Op~)!4^),sS^+)d5~+%(pr^&(BN~)%)~2%E",
    " pr^'(Es ^-%2!pr_cursig;~7g-pr_sigp^'5g)~:!Fhol^)5ZU~&>Wpr^('QT~.!7~5!8^'41%~-!8s~(!M^++d8val pr^,+L>~2!As~<!Ac~=!bc~+!celf_gre^',r4pr_^)%+k~'&u^+*C3~%(o~(,6ELF",
    "_PRARGS^&'O.(8^+')s~&)/ps~-*5^'&ns^1(ZYpr_^05?jpr_zomb~.!5nice~;(v^('W[~%(1r^(4fgr^('Vx~'!:g~(!:^)5bj~'!f~%E%~')9,~()-,~)(y~-%Zfname^&43a~,!:psargs[~+'B]~-,S^(&",
    "tk^'2Lns^&%/.;~8.Hpr~&(o.^-2:B__pr~,)0~)!/;~-!G^&*Dz~'!H~*!0;`~.!r~%'5lw^'-0i^1(QN~,.T ~(!,~,%:~3)s ~(!,~%!y^1*v-~4&iextra~QOkrofi^>(z7^&5yT~,4K~(!5^K'7p~>4>~,!",
    "!~''2pro^*1J6~')mr^)(ua^)(uc~%+/z~1!7off~<1ecal^)%,d^.1&JROF_USHORT\t^)&|[~&!8INT\t^*+m)~)!;FAST~%=0^'+lF^6+ke~+Lls~&(F^*0iGrof~%?8ro^*&B4profc^*+?X~/1]*__tvp~C",
    "OE^Z0/3ota^K+Ya~8;5QUOTA~0;4~'!8^S.'6~0Xa~'%x^/)j*dbtob(num) (~&!*<< 1~+]Qbtod~.!E>>~%!E~-!nfs_to_dq^')9o(num, blk^&2W|(~'!a* (~(!7) / 1024)~,'4~(_2AX_IQ_^&%of6",
    "04^,(HvMAX_D~/!?~)!A~%'T^)6,O\"~%&q\"~.!B^&%iv\"staff^*3Nc NR_DQHASH ^+)U4~%!8UOTS 256~*.Edqblk^+1TY^)%o*dqb_bhard^''8O~4!Csoft~:!Ccurspa~(7V~/!Ai~>%*i~B%*ino^'",
    "6|p~2%k^,3<3~.%&~0!=32~'!=~.;6~*zodq~+'-\tdq_dqb.~.'D~-!P~)&3~-!P~)!9~*,.q~)'H~,!N~(!7~,!L~%%n~,!I~%!4~,%Fi~5%ui~5%ui~5%ui~1%u\t~&%u~&(:~/%v~&!8~-&wtim~-&E~%!4~",
    "-%H~0!F~%!4~+/Dqoff(UID^)1EE__l^&7+6(~&!:~*M+~,,?)))~,,R~-?w~-*)i_bgr~6+ji_i~1!>~'*Fi^*4R&~1!=~-*c~:6.~%/B^+&TE^3%]P^'%db~(6;^+4wB__c~&?( ^'&[C~f5traw~Bk&RAW^2.",
    "8cW^I2z;^+%XU~(!jRAW^&,4]\t162~/!;SETBI^')SP^&&1<ac, ~+5GRAW_G~5!I1~*G)^&'K4nfig^+0np~&E<raw^&,4E^-&%x~%5q^&,5/~4!;~&!T$~Nf)^E'pB^3'p<^*'p7^3+:2^+*T(R15^,2VWR14",
    "^,&bAR13\t2~,!22^,0xjRBP\t4~,!2X\t5~,!Q1\t6~,!20\t7~+!29\t8~+!18\t9~+!1AX\t1~,%hCX\t1~,%iDX\t1~,%jSI\t1~,%kDI\t1~+%lORIG_RAX 1~,%rIP\t1~+%sCS\t1~+%sEFLAGS\t1~,%",
    "xSP\t1~+%zSS\t2~+%yFS_BASE 2~+&%G~(!7~+&)DS\t2~+&(^',bd~*!m\t2~+%yG^&%ZE^'1XR~+)7EBX ~+%MECX ~+%HEDX ~+%CESI ~,%CDI ~+%CEBP ~+%CEAX ~+'?DS ~,'>S ~+'9FS ~+'7GS ~",
    ",)5~%(JEAX ~,):EIP ~,):CS  ~,):EFL ~,):UESP~-)6SS   16~Tzfrseq~C.%SEQ~1.&~%!7~/zi~%M)~&!z~.KH^4&eG~72c^)('0^R&e[~&%I^&&eZ~(&&_GLIBC_HAV^)*[KRSEQ^2-9K~.FG^''Ky^)",
    ",TD^&&lv^()/CCODE >= ~'!x~'!: (4, 18~&44~M%R~')3~(&m~7!T~2%x~((<~(-8enum rseq~%e>i^&)Cg^*(Mn~%)1CPU_ID_UN^*.wlD = -^''MR~,!HREGIST^&0[E^'2:7 = -2,~+O-~&%>~%;R~.",
    "%7FLAG_UN~&!kER =~'he0)~2!fc^'%yT_b^+7?X~&%ZS^))AARE^&)O!ON_PREEMPT_^'1RP,~A!T^&-ZD~'!S1~B!SMIGRATE~'!T2~:&+~L&' =~&n, (1U <<~H&Z)~H&W~L%-~*'3)~I'0~L%-~+'f~))k~",
    "*D,~''h^**rW~)C0^)(<P~.!:~+Ca~)=!^&*|Gip~+!P~%!;post_commit^+7HN~+!Eabo~'!_  $^3(tzal~%UI__ (32^*(ty~+&7~&&4~)!!~-&&~*.Nrt^.3-r~3!K;~4U8~-&(~''S;~9!J~.'H~H&L^0,",
    "AV~&Foptrdi^'+gA~%%H~('j~0!M~0veseq~']-~D!M~'&'^R-iL^.)*=^)1|,~F!gngle^'7MUed^D,flINGL^&%C*ADE^1')P~2!C^K'%v~('G^&'FVlibc_~/%r~[Jjsoundcard^3*JO~+!?~G']wap~D'QW",
    "AP^1%9g~&!8^:%9g~+UP~%!O~%0vPREFER^'%nx~5!D^*)R.7^+%Aw~0!G^0%Jg~*!C^',1=^(%Iw^?(']wapon^6*dY~7dt~1!fff~4!g^j-?M^')5'~=(uCAL^01LE~&!6^'%!<~*(vasm/unistd~7|J^+)6-",
    "~L%|^*4HV~-*d^14HE~1!:^5)6y^N,K2x^F,]*X^4,K.^V3bx^4,[ox^-%>zNTP_API\t4~)71ntp~'l4^,+A%~(lH~(bT~)nwmaxerro^.+FVest~2!8ta^&*%t^+%D>^.7_e1;~<!B2~=!B3~=!B4^(5c<~'&u",
    "TIME_OK^+,BI~&!6INS^+)QD~%!6DEL^+&4*~&!_OP^+&4-~%!6WAIT^+&41~%!7^&'z[5~.!8BAD\t~*!B~.kGTC\t\t6^3+:K^D.,-adj~%)]^-,hQx *__ntx)^:4&L~+!jntp^(,T3~*!n~**8~&!sv~;!s^",
    "T-V:~+%D,~;%D^=,W+~,&3)^47Dh^/-VJ~+!T~-!c~)LI~/';~'(.~2(-t~>(.^Z7Sy~')K,~6)L^?,Z;~(&*x^<7OJ~|(b __~+!m~]%Qx~j%R~V'+~''k~x(R~1+f~)/=~-!a~/,/~(+X~<!H^*,be~-(U~6!J",
    "x~1'N^m,c1tychar^I,[[^0,[XCHAR^2,cG~)!; 1^,4K:~%%8^)-Rktc_eras^)4K<tc_kill~+!2intrc~+!3quit~,!3~%Lu~.!4op~,!3eof~,!2brk~-!Rus~-!Rd~0!4rprn~-%/flush~,!4weras~,!4",
    "lnextc~'lO^,*xqOLD_TTY~0<:^64R4~K)>~(Ac~+%'~*Av~D!gv^C4DhSYS_V^14Dl~,!9^N()J^'.x&v^..jx`~'Ri  LIM_NORAISE,~)!4CPU~*!0^(4E'~'!2DATA~*!1STACK~+!_OR~+!OMAXRSS~.=HI",
    "NFINITY ~&Ie^'%qh~-H+~&&' (~6&6^,.m1^,'jv^i+H-m^6%Yq~.(tM^'%YI~-(s~%!8~:M>^4(]9~%CL This ^&)hx is unsupported on x86-64.~(eA~+edasm~'&+^>%g5vm86^6%g3sub^(-AM~%|",
    "+~'0qvm86plu^(+a)^4-m>~,(2^05mu~E(:t~3RHv~%kt"]

end CInspect.Includes
